import WireSchema.Proofs.Denotation
import WireSchema.Proofs.Destinations
import WireSchema.Proofs.Runs

/-! # Files below the root

The namespace of a type is checked before its file is placed, and never leads out of the root.
The name of the type is not: it can climb, or be a path from the root of the disk.

* `outputPath_eq_ok` — a namespace that is accepted is a way inwards, one directory for every
  segment.
* `StaysBelow` — what a type and its namespace have to be for its file to lie below the root.
* `generate_changes` — a run puts files only where the paths of its types lead.
* `written_below_root_iff` — a path lies below the root exactly if its type stays below, and then
  nothing outside of the root is written.
-/

namespace WireSchema

open Path (Destination destination)

variable {root extension placement typeName path directory : String}

/-! ## Namespaces -/

/-- The segments of a namespace are names without dots. -/
theorem mem_segments {segment : String} (listed : segment ∈ segments placement) :
    segment ≠ "" ∧ '.' ∉ segment.toList := by
  unfold segments at listed
  obtain ⟨piece, kept, rfl⟩ := List.mem_map.mp listed
  obtain ⟨member, named⟩ := List.mem_filter.mp kept
  constructor
  · intro empty
    have nothing : piece = [] := by simpa using congrArg String.toList empty
    simp [nothing] at named
  · rw [String.toList_ofList]
    exact Text.not_mem_of_mem_splitAt member

/-- A segment of a namespace is plain exactly if no separator of paths is in it. -/
theorem isPlainSegment_iff {segment : String} (listed : segment ∈ segments placement) :
    isPlainSegment segment = true ↔ '/' ∉ segment.toList ∧ '\\' ∉ segment.toList := by
  obtain ⟨named, noDot⟩ := mem_segments listed
  have moves : segment ∉ ["", ".", ".."] := by
    simp only [List.mem_cons, List.not_mem_nil, or_false, not_or]
    refine ⟨named, ?_, ?_⟩ <;> rintro rfl <;> exact noDot (by decide)
  simp [isPlainSegment, Path.components_eq_name_iff, moves]

/-- A plain segment of a namespace is one step inwards. -/
theorem steps_of_segment {segment : String} (listed : segment ∈ segments placement)
    (plain : isPlainSegment segment = true) :
    Path.isAbsolute segment = false ∧ Path.steps segment = [.into segment] := by
  obtain ⟨named, noDot⟩ := mem_segments listed
  obtain ⟨noSlash, _⟩ := (isPlainSegment_iff listed).mp plain
  have moves : segment ≠ "." ∧ segment ≠ ".." := by
    constructor <;> rintro rfl <;> exact noDot (by decide)
  exact ⟨Path.isAbsolute_of_name noSlash, Path.steps_of_name named moves noSlash⟩

theorem pushSegments_eq_ok {names : List String} (path : String) :
    pushSegments placement path names = .ok directory ↔
      (∀ name ∈ names, isPlainSegment name = true) ∧ names.foldl Path.push path = directory := by
  induction names generalizing path with
  | nil => simp [pushSegments]
  | cons name names inductionHypothesis =>
    unfold pushSegments
    by_cases plain : isPlainSegment name = true
    · rw [if_pos plain, inductionHypothesis, List.forall_mem_cons, List.foldl_cons]
      simp only [plain, true_and]
    · rw [if_neg plain, List.forall_mem_cons]
      simp [plain]

/-- Pushing names, each of them one step, leads inwards. -/
theorem destination_foldl_push {names : List String} (path : String)
    (inwards : ∀ name ∈ names, Path.isAbsolute name = false ∧ Path.steps name = [.into name]) :
    destination (names.foldl Path.push path) =
      { destination path with names := names.reverse ++ (destination path).names } := by
  induction names generalizing path with
  | nil => rfl
  | cons name names inductionHypothesis =>
    obtain ⟨⟨relative, step⟩, inwards⟩ := List.forall_mem_cons.mp inwards
    rw [List.foldl_cons, inductionHypothesis _ inwards, Path.destination_push path relative,
      Path.destination_of_step relative step]
    simp [Destination.followedBy]

/-- The path of a file leads inwards by one directory for every segment of the namespace, before
    the name of the file follows. -/
theorem outputPath_eq_ok (placed : outputPath root extension placement typeName = .ok path) :
    ∃ directory, path = Path.push directory (typeName ++ extension) ∧
      destination directory = { destination root with
        names := (segments placement).reverse ++ (destination root).names } := by
  unfold outputPath at placed
  cases pushed : pushSegments placement root (segments placement) with
  | error e =>
    rw [pushed] at placed
    cases placed
  | ok directory =>
    rw [pushed] at placed
    cases placed
    obtain ⟨plain, rfl⟩ := (pushSegments_eq_ok root).mp pushed
    exact ⟨_, rfl, destination_foldl_push root fun name listed =>
      steps_of_segment listed (plain name listed)⟩

/-! ## Names of files -/

/-- The root keeps the name of the file of a type, as it is followed from the directory of the
    namespace. -/
def StaysBelow (root extension placement typeName : String) : Prop :=
  (destination root).Keeps (segments placement).length (destination (typeName ++ extension))

/-- A file that is named without slashes stays below, unless its name is no name at all. -/
theorem staysBelow_of_name (root placement : String)
    (noSlash : '/' ∉ (typeName ++ extension).toList)
    (named : typeName ++ extension ∉ ["", ".", ".."]) :
    StaysBelow root extension placement typeName := by
  simp only [List.mem_cons, List.not_mem_nil, or_false, not_or] at named
  rw [StaysBelow, Path.destination_of_step (Path.isAbsolute_of_name noSlash)
    (Path.steps_of_name named.1 named.2 noSlash)]
  exact .within rfl (Nat.zero_le _) (.inl (List.cons_ne_nil _ _))

/-- The path of a file lies below the root exactly if the type stays below. -/
theorem below_iff_staysBelow (placed : outputPath root extension placement typeName = .ok path) :
    (destination path).Below (destination root) ↔
      StaysBelow root extension placement typeName := by
  obtain ⟨directory, rfl, inwards⟩ := outputPath_eq_ok placed
  unfold StaysBelow
  cases absolute : Path.isAbsolute (typeName ++ extension) with
  | true =>
    have replaced : Path.push directory (typeName ++ extension) = typeName ++ extension :=
      if_pos absolute
    rw [replaced]
    have rooted := (Path.destination_absolute (typeName ++ extension)).trans absolute
    constructor
    · exact .rooted rooted
    · intro keeps
      cases keeps with
      | rooted _ below => exact below
      | within relative | returning relative =>
        rw [rooted] at relative
        cases relative
  | false =>
    rw [Path.destination_push directory absolute, inwards,
      Destination.followedBy_below_iff ((Path.destination_absolute _).trans absolute),
      List.length_reverse]

/-! ## Runs -/

/-- Below the place that the root leads to. -/
def FileTree.Inside (tree : FileTree) (root : String) (place : Location) : Prop :=
  ∃ names, names ≠ [] ∧ place = names ++ tree.placeOf (destination root)

variable {modules : List Module} {config : Config} {types : List Declared}
  {files : List WrittenFile} {tree before after : FileTree}

/-- A run does not move the root. -/
theorem FileTree.Changes.inside {places : Location → Prop} {place : Location}
    (changes : before.Changes after places) (inside : after.Inside root place) :
    before.Inside root place := by
  unfold FileTree.Inside FileTree.placeOf at inside ⊢
  rwa [changes.workingDirectory] at inside

theorem inside_of_staysBelow {place : Location}
    (placed : outputPath root extension placement typeName = .ok path)
    (below : StaysBelow root extension placement typeName)
    (located : tree.locate path = .ok place) : tree.Inside root place := by
  obtain ⟨names, some, split⟩ :=
    FileTree.exists_placeOf_of_below ((below_iff_staysBelow placed).mpr below)
  exact ⟨names, some, (FileTree.locate_eq located).trans split⟩

/-- A type that stays below is written inside of the root, or not at all. -/
theorem emit_changes {file : RenderedFile} (tree : FileTree)
    (below : StaysBelow config.outDir config.extension file.placement file.typeName) :
    tree.Changes ((emit config.outDir config.extension file).run tree).tree
      (tree.Inside config.outDir) := by
  obtain ⟨path, after, placed, saves, ran⟩ | ⟨e, after, fails, ran⟩ := run_emit config file tree
  · rw [ran]
    refine saves.changes.mono fun place located => ?_
    exact saves.changes.inside (inside_of_staysBelow placed below located)
  · rw [ran]
    exact fails.changes

/-- The namespace that a declaration is placed in. -/
def Declared.placementIn (config : Config) (declared : Declared) : String :=
  WireSchema.placement config.namespaceTag declared.home.defaultNamespace
    declared.declaration.comment

/-- Types that stay below are written inside of the root. -/
theorem WritesAll.changes_inside (writes : WritesAll modules config types files before after)
    (below : ∀ declared ∈ types,
      StaysBelow config.outDir config.extension (declared.placementIn config) declared.name) :
    before.Changes after (before.Inside config.outDir) := by
  induction writes with
  | nil => exact .refl _ _
  | cons writes _ inductionHypothesis =>
    obtain ⟨first, later⟩ := List.forall_mem_cons.mp below
    have changes := writes.saved.changes
    refine (changes.mono fun place located => ?_).trans
      ((inductionHypothesis later).mono fun place => changes.inside)
    exact changes.inside (inside_of_staysBelow writes.placed first located)

theorem generate_changes (tree : FileTree)
    (below : ∀ declared ∈ Declared.all modules,
      StaysBelow config.outDir config.extension (declared.placementIn config) declared.name) :
    tree.Changes ((generate modules config).run tree).tree (tree.Inside config.outDir) := by
  have ends := ends_generate modules config tree
  generalize (generate modules config).run tree = run at ends ⊢
  cases ends with
  | finished writes _ => exact writes.changes_inside below
  | stopped split writes fails _ =>
    have done := writes.changes_inside fun declared listed =>
      below declared (split ▸ List.mem_append_left _ listed)
    exact done.trans fails.changes

/-- The path of a file lies below the root, read as a text, exactly if its type stays below, as
    every type does whose file is named without slashes.  A type that stays below is written
    inside of the root, and where all types do, so is every file of a run. -/
theorem written_below_root_iff (config : Config) (tree : FileTree) :
    (∀ placement typeName path,
      outputPath config.outDir config.extension placement typeName = .ok path →
      ((destination path).Below (destination config.outDir) ↔
        StaysBelow config.outDir config.extension placement typeName)) ∧
    (∀ placement typeName, '/' ∉ (typeName ++ config.extension).toList →
      typeName ++ config.extension ∉ ["", ".", ".."] →
      StaysBelow config.outDir config.extension placement typeName) ∧
    (∀ file : RenderedFile,
      StaysBelow config.outDir config.extension file.placement file.typeName →
      tree.Changes ((emit config.outDir config.extension file).run tree).tree
        (tree.Inside config.outDir)) ∧
    ∀ modules, (∀ declared ∈ Declared.all modules,
        StaysBelow config.outDir config.extension (declared.placementIn config) declared.name) →
      tree.Changes ((generate modules config).run tree).tree (tree.Inside config.outDir) :=
  ⟨fun _ _ _ placed => below_iff_staysBelow placed,
    fun placement _ noSlash named => staysBelow_of_name config.outDir placement noSlash named,
    fun _ below => emit_changes tree below, fun _ below => generate_changes tree below⟩

namespace Sample

/-- A module with a struct whose name is a way out. -/
def climber : Module := ⟨"game.sp", "game", [.empty "../../escaped"], []⟩

theorem destination_escaped :
    destination "out/game/../../escaped.java" = ⟨false, 0, ["escaped.java"]⟩ := by decide

end Sample

open Sample in
/-- The climber does not stay below, and its file is written beside the root.  A module whose
    types have plain names is written inside. -/
theorem written_below_root_climber :
    outputPath "out" ".java" "game" "../../escaped" = .ok "out/game/../../escaped.java" ∧
    ¬ (destination "out/game/../../escaped.java").Below (destination "out") ∧
    ¬ StaysBelow "out" ".java" "game" "../../escaped" ∧
    (∃ file,
      RendersTo [climber] (.writingTo "out") climber (.struct (.empty "../../escaped")) file ∧
      ((generate [climber] (.writingTo "out")).run (.empty ["work"])).tree.find?
        ["escaped.java", "work"] = some (.file file.contents.toUTF8)) ∧
    ¬ (FileTree.empty ["work"]).Inside "out" ["escaped.java", "work"] ∧
    (∀ declared ∈ Declared.all [depot],
      StaysBelow "out" ".java" (declared.placementIn (.writingTo "out")) declared.name) ∧
    (FileTree.empty ["work"]).Changes
      ((generate [depot] (.writingTo "out")).run (.empty ["work"])).tree
      ((FileTree.empty ["work"]).Inside "out") := by
  obtain ⟨exactly, plain, _, runs⟩ := written_below_root_iff (.writingTo "out") (.empty ["work"])
  have placed : outputPath "out" ".java" "game" "../../escaped" =
      .ok "out/game/../../escaped.java" := by decide
  have root : destination "out" = ⟨false, 0, ["out"]⟩ := by decide
  have outside : ¬ (destination "out/game/../../escaped.java").Below (destination "out") := by
    rw [destination_escaped, root]
    rintro ⟨_, _, names, _, split⟩
    have last := congrArg List.getLast? split
    simp at last
  have named : ∀ declared ∈ Declared.all [depot], '/' ∉ (declared.name ++ ".java").toList ∧
      declared.name ++ ".java" ∉ ["", ".", ".."] := by decide
  have below : ∀ declared ∈ Declared.all [depot],
      StaysBelow "out" ".java" (declared.placementIn (.writingTo "out")) declared.name :=
    fun declared listed => plain _ _ (named declared listed).1 (named declared listed).2
  refine ⟨placed, outside, mt (exactly _ _ _ placed).mpr outside, ?_, ?_, below, runs _ below⟩
  · exact ⟨_, rfl, rfl⟩
  · rintro ⟨names, some, split⟩
    have length := congrArg List.length split
    rw [FileTree.placeOf, root] at length
    exact some (List.length_eq_zero_iff.mp (by simpa [FileTree.empty] using length))

end WireSchema
