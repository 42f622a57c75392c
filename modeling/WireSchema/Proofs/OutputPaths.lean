import WireSchema.Proofs.Packages

/-! # Spelling of output paths

The path of a file is spelled from the root, the pieces of its namespace and the name of the file.
A piece that would not be a single directory is refused, and what is left can be read off the path
again.

* `pieces` — a namespace between its dots, and `HasSeparator`, what no directory may be called.
* `below` — a path that is spelled from a root and names.
* `outputPath_refuses_or_spells` — which namespaces are refused, and the path for all others.
* `outputPath_separates_types` — files of different types have different paths.
-/

namespace WireSchema

variable {root extension placement typeName path segment : String} {names : List String}

/-! ## Namespaces -/

/-- What a namespace has between its dots, without the empty pieces. -/
def pieces (placement : String) : List String :=
  ((placement.toList.splitOn '.').map String.ofList).filter (· ≠ "")

/-- There is a character in the piece that separates directories, on one system or another. -/
def HasSeparator (piece : String) : Prop :=
  '/' ∈ piece.toList ∨ '\\' ∈ piece.toList

theorem segments_eq_pieces (placement : String) : segments placement = pieces placement := by
  rw [segments_eq, statedPackage]
  split
  · next empty =>
    subst empty
    rfl
  · rfl

theorem isPlainSegment_eq_false_iff (listed : segment ∈ segments placement) :
    isPlainSegment segment = false ↔ HasSeparator segment := by
  rw [← Bool.not_eq_true, isPlainSegment_iff listed, HasSeparator]
  tauto

theorem pushSegments_eq_error_iff {e : PlacementError} :
    pushSegments placement path names = .error e ↔
      ∃ before segment after, names = before ++ segment :: after ∧
        (∀ name ∈ before, isPlainSegment name = true) ∧ isPlainSegment segment = false ∧
        e = ⟨placement, segment⟩ := by
  induction names generalizing path with
  | nil => simp [pushSegments]
  | cons name names inductionHypothesis =>
    unfold pushSegments
    cases plain : isPlainSegment name with
    | true =>
      rw [if_pos rfl, inductionHypothesis]
      constructor
      · rintro ⟨before, segment, after, rfl, earlier, refused, same⟩
        exact ⟨name :: before, segment, after, rfl, List.forall_mem_cons.mpr ⟨plain, earlier⟩,
          refused, same⟩
      · rintro ⟨before, segment, after, split, earlier, refused, same⟩
        cases before with
        | nil =>
          -- the first name is plain, so another one is refused
          rw [← (List.cons.inj split).1, plain] at refused
          cases refused
        | cons first before =>
          exact ⟨before, segment, after, (List.cons.inj split).2,
            (List.forall_mem_cons.mp earlier).2, refused, same⟩
    | false =>
      rw [if_neg Bool.false_ne_true]
      constructor
      · intro same
        exact ⟨[], name, names, rfl, by simp, plain, (Except.error.inj same).symm⟩
      · rintro ⟨before, segment, after, split, earlier, _, rfl⟩
        cases before with
        | nil => rw [(List.cons.inj split).1]
        | cons first before =>
          have kept := (List.forall_mem_cons.mp earlier).1
          rw [← (List.cons.inj split).1, plain] at kept
          cases kept

/-! ## Spelling -/

/-- The path of what lies below a root: the names in their order, with one slash between them, and
    one after the root unless there is nothing before it or a slash already. -/
def below (root : String) (names : List String) : String :=
  if root = "" ∨ Path.endsInSlash root = true then root ++ "/".intercalate names
  else "/".intercalate (root :: names)

/-- What stands in a path before the first name below its root. -/
def lead (root : String) : String :=
  if root = "" ∨ Path.endsInSlash root = true then root else root ++ "/"

theorem below_eq (some : names ≠ []) : below root names = lead root ++ "/".intercalate names := by
  unfold below lead
  split
  · rfl
  · exact String.intercalate_cons_of_ne_nil some

theorem Path.push_eq (path : String) {addition : String}
    (relative : Path.isAbsolute addition = false) :
    Path.push path addition = lead path ++ addition := by
  have ends : (path.isEmpty || path.toList.getLast? == some '/') = true ↔
      path = "" ∨ Path.endsInSlash path = true := by
    simp [Path.endsInSlash]
  unfold Path.push lead
  rw [if_neg (relative ▸ Bool.false_ne_true)]
  by_cases closed : path = "" ∨ Path.endsInSlash path = true
  · rw [if_pos (ends.mpr closed), if_pos closed]
  · rw [if_neg (mt ends.mp closed), if_neg closed]

/-- A name that has been appended is followed by a slash. -/
theorem lead_push (path : String) {name : String} (named : name ≠ "")
    (noSlash : '/' ∉ name.toList) : lead (Path.push path name) = lead path ++ name ++ "/" := by
  have relative := Path.isAbsolute_of_name noSlash
  have unclosed : ¬ (Path.push path name = "" ∨ Path.endsInSlash (Path.push path name) = true) := by
    have characters : name.toList ≠ [] := by simpa using named
    rw [Path.push_eq path relative, Path.endsInSlash, beq_iff_eq, String.toList_append,
      List.getLast?_append_of_ne_nil _ characters, ← String.toList_inj]
    rintro (empty | ends)
    · simp [named] at empty
    · exact noSlash (List.mem_of_getLast? ends)
  rw [lead, if_neg unclosed, Path.push_eq path relative]

/-- Names that are appended one after the other have a slash between them. -/
theorem push_foldl_push (root : String) {name : String}
    (inner : ∀ other ∈ names, other ≠ "" ∧ '/' ∉ other.toList) (noSlash : '/' ∉ name.toList) :
    Path.push (names.foldl Path.push root) name =
      lead root ++ "/".intercalate (names ++ [name]) := by
  induction names generalizing root with
  | nil => simpa using Path.push_eq root (Path.isAbsolute_of_name noSlash)
  | cons first names inductionHypothesis =>
    obtain ⟨⟨named, plain⟩, inner⟩ := List.forall_mem_cons.mp inner
    rw [List.foldl_cons, inductionHypothesis _ inner, lead_push root named plain, List.cons_append,
      String.intercalate_cons_of_ne_nil (by simp)]
    simp only [String.append_assoc]

theorem outputPath_eq_ok_iff : outputPath root extension placement typeName = .ok path ↔
    (∀ piece ∈ pieces placement, ¬ HasSeparator piece) ∧
      Path.push ((pieces placement).foldl Path.push root) (typeName ++ extension) = path := by
  have plain : (∀ name ∈ segments placement, isPlainSegment name = true) ↔
      ∀ piece ∈ pieces placement, ¬ HasSeparator piece := by
    rw [← segments_eq_pieces]
    refine forall₂_congr fun piece listed => ?_
    rw [← isPlainSegment_eq_false_iff listed, Bool.not_eq_false]
  simp only [outputPath, bind_eq_ok, pushSegments_eq_ok, plain, and_assoc, exists_and_left,
    exists_eq_left', ← segments_eq_pieces]
  simp [pure, Except.pure]

/-- The path of a file that is named without slashes is spelled from the pieces of its namespace. -/
theorem outputPath_spelled (placed : outputPath root extension placement typeName = .ok path)
    (noSlash : '/' ∉ (typeName ++ extension).toList) :
    path = lead root ++ "/".intercalate (pieces placement ++ [typeName ++ extension]) := by
  obtain ⟨plain, rfl⟩ := outputPath_eq_ok_iff.mp placed
  refine push_foldl_push root (fun piece listed => ⟨?_, fun slash => ?_⟩) noSlash
  · exact (mem_segments (segments_eq_pieces placement ▸ listed)).1
  · exact plain piece listed (.inl slash)

theorem outputPath_eq_error_iff {e : PlacementError} :
    outputPath root extension placement typeName = .error e ↔
      ∃ before piece after, pieces placement = before ++ piece :: after ∧
        (∀ other ∈ before, ¬ HasSeparator other) ∧ HasSeparator piece ∧ e = ⟨placement, piece⟩ := by
  have refused : outputPath root extension placement typeName = .error e ↔
      pushSegments placement root (segments placement) = .error e := by
    unfold outputPath
    cases pushSegments placement root (segments placement) <;>
      simp [bind, Except.bind, pure, Except.pure]
  rw [refused, pushSegments_eq_error_iff, ← segments_eq_pieces]
  refine exists_congr fun before => exists_congr fun piece => exists_congr fun after =>
    and_congr_right fun split => ?_
  have listed : ∀ other ∈ before ++ piece :: after, other ∈ segments placement :=
    fun other member => split ▸ member
  refine and_congr (forall₂_congr fun other member => ?_) (and_congr_left fun _ => ?_)
  · rw [← isPlainSegment_eq_false_iff (listed other (List.mem_append_left _ member)),
      Bool.not_eq_false]
  · exact isPlainSegment_eq_false_iff (listed piece (by simp))

/-- A namespace is refused exactly if one of its pieces has a separator in it, and the refusal names
    the whole namespace and the first of these pieces.  Otherwise the path of a file that is named
    without slashes is its root, the pieces, and the name of the file.  A file without any name
    leaves a slash at the end. -/
theorem outputPath_refuses_or_spells (root extension placement typeName : String) :
    ((∃ e, outputPath root extension placement typeName = .error e) ↔
      ∃ piece ∈ pieces placement, HasSeparator piece) ∧
    (∀ e, outputPath root extension placement typeName = .error e →
      e.placement = placement ∧ ∃ before after, pieces placement = before ++ e.segment :: after ∧
        (∀ piece ∈ before, ¬ HasSeparator piece) ∧ HasSeparator e.segment) ∧
    ((∀ piece ∈ pieces placement, ¬ HasSeparator piece) →
      '/' ∉ (typeName ++ extension).toList →
      outputPath root extension placement typeName =
        .ok (below root (pieces placement ++ [typeName ++ extension]))) := by
  refine ⟨?_, ?_, ?_⟩
  · constructor
    · rintro ⟨e, refused⟩
      obtain ⟨before, piece, after, split, _, separator, _⟩ := outputPath_eq_error_iff.mp refused
      exact ⟨piece, by simp [split], separator⟩
    · rintro ⟨piece, listed, separator⟩
      cases outcome : outputPath root extension placement typeName with
      | error e => exact ⟨e, rfl⟩
      | ok path => exact absurd separator ((outputPath_eq_ok_iff.mp outcome).1 piece listed)
  · intro e refused
    obtain ⟨before, piece, after, split, earlier, separator, rfl⟩ :=
      outputPath_eq_error_iff.mp refused
    exact ⟨rfl, before, after, split, earlier, separator⟩
  · intro plain noSlash
    have placed : outputPath root extension placement typeName = .ok _ :=
      outputPath_eq_ok_iff.mpr ⟨plain, rfl⟩
    rw [placed, outputPath_spelled placed noSlash, below_eq (by simp)]

/-- The root ends in a slash already, and empty pieces leave no trace.  Of two pieces that are no
    directories, the first one is named. -/
theorem outputPath_refuses_or_spells_item :
    outputPath "/out/" ".java" ".game..item." "Sword" = .ok "/out/game/item/Sword.java" ∧
      outputPath "/out/" ".java" "game.a\\b.c/d" "Sword" = .error ⟨"game.a\\b.c/d", "a\\b"⟩ ∧
      ∃ piece ∈ pieces "game.a\\b.c/d", HasSeparator piece := by
  have parts : pieces ".game..item." = ["game", "item"] := by decide
  have plain : ∀ piece ∈ pieces ".game..item.", ¬ HasSeparator piece := by
    simp [parts, HasSeparator]
  have refused : outputPath "/out/" ".java" "game.a\\b.c/d" "Sword" =
      .error ⟨"game.a\\b.c/d", "a\\b"⟩ := by decide
  refine ⟨?_, refused, (outputPath_refuses_or_spells _ _ _ _).1.mp ⟨_, refused⟩⟩
  rw [(outputPath_refuses_or_spells "/out/" ".java" ".game..item." "Sword").2.2 plain (by decide),
    parts]
  decide

/-! ## Reading paths back -/

/-- Names without slashes can be read off the path that is spelled from them. -/
theorem intercalate_inj {others : List String} (some : names ≠ []) (some' : others ≠ [])
    (plain : ∀ name ∈ names, '/' ∉ name.toList) (plain' : ∀ name ∈ others, '/' ∉ name.toList)
    (same : "/".intercalate names = "/".intercalate others) : names = others := by
  have read {list : List String} (some : list ≠ []) (plain : ∀ name ∈ list, '/' ∉ name.toList) :
      ("/".intercalate list).toList.splitOn '/' = list.map String.toList := by
    rw [String.toList_intercalate]
    exact List.splitOn_intercalate '/' (by simpa using plain) (by simpa using some)
  have characters : names.map String.toList = others.map String.toList := by
    rw [← read some plain, ← read some' plain', same]
  exact List.map_injective_iff.mpr (fun _ _ => String.toList_inj.mp) characters

/-- The paths of two types below one root are the same exactly if the types have the same name and
    their namespaces have the same pieces. -/
theorem outputPath_separates_types {placement' typeName' path' : String}
    (extends' : '/' ∉ extension.toList) (named : '/' ∉ typeName.toList)
    (named' : '/' ∉ typeName'.toList)
    (placed : outputPath root extension placement typeName = .ok path)
    (placed' : outputPath root extension placement' typeName' = .ok path') :
    path = path' ↔ pieces placement = pieces placement' ∧ typeName = typeName' := by
  have plain {name : String} (named : '/' ∉ name.toList) : '/' ∉ (name ++ extension).toList := by
    simp [named, extends']
  have single {placement name path : String} (named : '/' ∉ name.toList)
      (placed : outputPath root extension placement name = .ok path) :
      ∀ other ∈ pieces placement ++ [name ++ extension], '/' ∉ other.toList := by
    intro other listed
    rcases List.mem_append.mp listed with piece | last
    · exact fun slash => (outputPath_eq_ok_iff.mp placed).1 other piece (.inl slash)
    · rw [List.mem_singleton.mp last]
      exact plain named
  rw [outputPath_spelled placed (plain named), outputPath_spelled placed' (plain named'),
    String.append_right_inj]
  constructor
  · intro same
    have names := intercalate_inj (by simp) (by simp) (single named placed) (single named' placed')
      same
    obtain ⟨pieces, last⟩ := List.append_inj' names rfl
    exact ⟨pieces, (String.append_left_inj _).mp (List.singleton_inj.mp last)⟩
  · rintro ⟨pieces, rfl⟩
    rw [pieces]

/-- Dots without a piece between them make no difference to a path, and any other dot does. -/
theorem outputPath_separates_types_item :
    outputPath "out" ".java" "game.item" "Sword" = .ok "out/game/item/Sword.java" ∧
      outputPath "out" ".java" ".game..item" "Sword" = .ok "out/game/item/Sword.java" ∧
      outputPath "out" ".java" "gameitem" "Sword" = .ok "out/gameitem/Sword.java" ∧
      pieces "game.item" = pieces ".game..item" ∧ pieces "game.item" ≠ pieces "gameitem" := by
  have extends' : '/' ∉ ".java".toList := by decide
  have named : '/' ∉ "Sword".toList := by decide
  have nested : outputPath "out" ".java" "game.item" "Sword" = .ok "out/game/item/Sword.java" := by
    decide
  have dotted : outputPath "out" ".java" ".game..item" "Sword" =
      .ok "out/game/item/Sword.java" := by decide
  have flat : outputPath "out" ".java" "gameitem" "Sword" = .ok "out/gameitem/Sword.java" := by
    decide
  refine ⟨nested, dotted, flat, ?_, fun same => ?_⟩
  · exact ((outputPath_separates_types extends' named named nested dotted).mp rfl).1
  · have paths := (outputPath_separates_types extends' named named nested flat).mpr ⟨same, rfl⟩
    exact absurd paths (by decide)

end WireSchema
