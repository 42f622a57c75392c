import WireSchema.FileTree.Basic
import WireSchema.Proofs.Outcomes

/-! # What operations change in a file tree

A run only ever adds directories and puts files in places where no directory is.  Directories
therefore stay, and a path that leads somewhere leads there in every later tree.

* `Changes` — one tree comes from another by such steps, with files put only at given places.
* `makeDirectories_changes` — making directories puts no file anywhere.
* `Saves` — a file is written, in directories that are made for it.  `Saves.changes` says that
  nothing but the place of its path is touched.
-/

namespace WireSchema.FileTree

/-! ## Changes -/

/-- From `before` to `after`, directories have been added where nothing was, and files have been
    put only at `places`, and over no directory. -/
structure Changes (before after : FileTree) (places : Location → Prop) : Prop where
  workingDirectory : after.workingDirectory = before.workingDirectory
  entry : ∀ location,
    after.find? location = before.find? location ∨
    (before.find? location = none ∧ after.find? location = some .directory) ∨
    (places location ∧ before.find? location ≠ some .directory ∧
      ∃ contents, after.find? location = some (.file contents))

namespace Changes

variable {before between after : FileTree} {places more : Location → Prop}

theorem refl (tree : FileTree) (places : Location → Prop) : tree.Changes tree places :=
  ⟨rfl, fun _ => .inl rfl⟩

theorem mono (changes : before.Changes after places)
    (subset : ∀ location, places location → more location) : before.Changes after more := by
  refine ⟨changes.workingDirectory, fun location => ?_⟩
  obtain same | added | ⟨listed, put⟩ := changes.entry location
  · exact .inl same
  · exact .inr (.inl added)
  · exact .inr (.inr ⟨subset location listed, put⟩)

theorem directory {location : Location} (changes : before.Changes after places)
    (there : before.find? location = some .directory) :
    after.find? location = some .directory := by
  obtain same | ⟨absent, _⟩ | ⟨_, free, _⟩ := changes.entry location
  · rw [same, there]
  · rw [there] at absent
    cases absent
  · exact absurd there free

theorem trans (first : before.Changes between places) (second : between.Changes after places) :
    before.Changes after places := by
  refine ⟨second.workingDirectory.trans first.workingDirectory, fun location => ?_⟩
  obtain same | added | ⟨listed, free, contents, put⟩ := first.entry location
  · rw [← same]
    exact second.entry location
  · exact .inr (.inl ⟨added.1, second.directory added.2⟩)
  · refine .inr (.inr ⟨listed, free, ?_⟩)
    obtain same | ⟨absent, _⟩ | ⟨_, _, later⟩ := second.entry location
    · exact ⟨contents, same.trans put⟩
    · rw [put] at absent
      cases absent
    · exact later

/-- A file stays where no file is put. -/
theorem file {place : Location} {contents : ByteArray} (changes : before.Changes after places)
    (there : before.find? place = some (.file contents)) (kept : ¬ places place) :
    after.find? place = some (.file contents) := by
  obtain same | ⟨absent, _⟩ | ⟨listed, _⟩ := changes.entry place
  · rw [same, there]
  · rw [there] at absent
    cases absent
  · exact absurd listed kept

theorem exists_file {place : Location} {held : ByteArray} (changes : before.Changes after places)
    (there : before.find? place = some (.file held)) :
    ∃ contents, after.find? place = some (.file contents) := by
  obtain same | ⟨absent, _⟩ | ⟨_, _, put⟩ := changes.entry place
  · exact ⟨held, same.trans there⟩
  · rw [there] at absent
    cases absent
  · exact put

theorem put_directory {place : Location} (named : place ≠ [])
    (absent : before.find? place = none) :
    before.Changes (before.put place .directory) places := by
  refine ⟨rfl, fun location => ?_⟩
  by_cases here : location = place
  · subst here
    exact .inr (.inl ⟨absent, find?_put_self named before _⟩)
  · exact .inl (find?_put_of_ne here before _)

theorem put_file {place : Location} {contents : ByteArray} (named : place ≠ [])
    (free : before.find? place ≠ some .directory) :
    before.Changes (before.put place (.file contents)) (· = place) := by
  refine ⟨rfl, fun location => ?_⟩
  by_cases here : location = place
  · subst here
    exact .inr (.inr ⟨rfl, free, contents, find?_put_self named before _⟩)
  · exact .inl (find?_put_of_ne here before _)

end Changes

/-! ## Where paths lead -/

section Following

variable {before after tree : FileTree} {places : Location → Prop} {location place : Location}
  {step : Path.Step} {path : String}

theorem find?_of_enter (entered : tree.enter location step = .ok place) :
    tree.find? location = some .directory := by
  unfold enter at entered
  split at entered
  · cases entered
  · cases entered
  · assumption

theorem enter_into_ne_nil {name : String}
    (entered : tree.enter location (.into name) = .ok place) : place ≠ [] := by
  simp only [enter, find?_of_enter entered] at entered
  split at entered
  · cases entered
  · cases entered
    exact List.cons_ne_nil _ _

theorem follow_append (tree : FileTree) (location : Location) (first second : List Path.Step) :
    tree.follow location (first ++ second) =
      tree.follow location first >>= fun next => tree.follow next second := by
  induction first generalizing location with
  | nil => rfl
  | cons step steps inductionHypothesis =>
    simp only [List.cons_append, follow]
    cases tree.enter location step with
    | error fault => rfl
    | ok next => exact inductionHypothesis next

theorem Changes.enter (changes : before.Changes after places)
    (entered : before.enter location step = .ok place) :
    after.enter location step = .ok place := by
  have there := find?_of_enter entered
  -- the step asks for nothing but the directory that it starts in
  unfold FileTree.enter at entered ⊢
  rw [there] at entered
  rw [changes.directory there]
  exact entered

theorem Changes.follow {steps : List Path.Step} (changes : before.Changes after places)
    (followed : before.follow location steps = .ok place) :
    after.follow location steps = .ok place := by
  induction steps generalizing location with
  | nil => exact followed
  | cons step steps inductionHypothesis =>
    simp only [FileTree.follow, bind_eq_ok] at followed ⊢
    obtain ⟨next, entered, followed⟩ := followed
    exact ⟨next, changes.enter entered, inductionHypothesis followed⟩

theorem Changes.startOf (changes : before.Changes after places) (path : String) :
    after.startOf path = before.startOf path := by
  unfold FileTree.startOf
  rw [changes.workingDirectory]

/-- A path that leads to a place leads there in every later tree. -/
theorem Changes.locate (changes : before.Changes after places)
    (located : before.locate path = .ok place) : after.locate path = .ok place := by
  simp only [FileTree.locate, bind_eq_ok] at located ⊢
  obtain ⟨_, checked, followed⟩ := located
  exact ⟨(), checked, changes.startOf path ▸ changes.follow followed⟩

theorem Changes.locateLast {last : Location × Option Path.Step}
    (changes : before.Changes after places) (located : before.locateLast path = .ok last) :
    after.locateLast path = .ok last := by
  simp only [FileTree.locateLast, bind_eq_ok] at located ⊢
  obtain ⟨_, checked, located⟩ := located
  refine ⟨(), checked, ?_⟩
  split at located
  · exact located
  · simp only [bind_eq_ok] at located ⊢
    obtain ⟨directory, followed, whole⟩ := located
    exact ⟨directory, changes.startOf path ▸ changes.follow followed, whole⟩

/-- A path leads one step from where its last step starts. -/
theorem locate_of_locateLast (last : tree.locateLast path = .ok (location, some step)) :
    tree.locate path = tree.enter location step := by
  simp only [locateLast, bind_eq_ok] at last
  obtain ⟨_, checked, last⟩ := last
  split at last
  · cases last
  · next final before reversed =>
    simp only [bind_eq_ok] at last
    obtain ⟨directory, followed, equal⟩ := last
    cases equal
    have whole : Path.steps path = before.reverse ++ [step] := by
      rw [← List.reverse_reverse (Path.steps path), reversed, List.reverse_cons]
    unfold FileTree.locate
    rw [checked, whole, follow_append, followed]
    change tree.follow location [step] = _
    simp only [FileTree.follow]
    cases tree.enter location step <;> rfl

/-- A path that leads somewhere has no last step, or its last step leads there. -/
theorem locateLast_of_locate (located : tree.locate path = .ok place) :
    tree.locateLast path = .ok ([], none) ∨
      ∃ directory step, tree.locateLast path = .ok (directory, some step) ∧
        tree.enter directory step = .ok place := by
  simp only [FileTree.locate, bind_eq_ok] at located
  obtain ⟨_, checked, followed⟩ := located
  simp only [FileTree.locateLast, bind_eq_ok]
  cases reversed : (Path.steps path).reverse with
  | nil => exact .inl ⟨(), checked, rfl⟩
  | cons step before =>
    rw [← List.reverse_reverse (Path.steps path), reversed, List.reverse_cons, follow_append,
      bind_eq_ok] at followed
    obtain ⟨directory, followed, final⟩ := followed
    simp only [FileTree.follow, bind_eq_ok] at final
    obtain ⟨_, entered, same⟩ := final
    cases same
    exact .inr ⟨directory, step, ⟨(), checked, bind_eq_ok.mpr ⟨directory, followed, rfl⟩⟩, entered⟩

end Following

/-! ## Operations -/

variable {before after tree : FileTree} {places : Location → Prop} {path : String}
  {contents : ByteArray}

theorem makeDirectory_eq_ok (made : tree.makeDirectory path = .ok after) :
    ∃ place, place ≠ [] ∧ tree.locate path = .ok place ∧ tree.find? place = none ∧
      after = tree.put place .directory := by
  simp only [makeDirectory, bind_eq_ok] at made
  obtain ⟨⟨location, step⟩, last, made⟩ := made
  cases step with
  | none => cases made
  | some step =>
    simp only [bind_eq_ok] at made
    obtain ⟨place, entered, made⟩ := made
    cases step with
    | stay | up => cases made
    | into name =>
      cases there : tree.find? place with
      | some entry =>
        simp only [there, Option.isSome_some, if_true] at made
        cases made
      | none =>
        simp only [there, Option.isSome_none] at made
        cases made
        exact ⟨place, enter_into_ne_nil entered, (locate_of_locateLast last).trans entered, there,
          rfl⟩

/-- A file is written exactly if the path ends in a name, which may not be that of a directory. -/
theorem writeFile_eq_ok_iff : tree.writeFile path contents = .ok after ↔
    Path.endsInSlash path = false ∧ ∃ directory name place,
      tree.locateLast path = .ok (directory, some (.into name)) ∧
      tree.enter directory (.into name) = .ok place ∧ tree.find? place ≠ some .directory ∧
      after = tree.put place (.file contents) := by
  simp only [writeFile, bind_eq_ok]
  constructor
  · rintro ⟨⟨location, step⟩, last, written⟩
    cases step with
    | none => cases written
    | some step =>
      cases step with
      | stay | up =>
        simp only [bind_eq_ok] at written
        obtain ⟨_, _, written⟩ := written
        cases written
      | into name =>
        dsimp only at written
        split at written
        · simp only [bind_eq_ok] at written
          obtain ⟨_, _, _, refused, _⟩ := written
          cases refused
        · next noSlash =>
          simp only [bind_eq_ok] at written
          obtain ⟨place, entered, written⟩ := written
          split at written
          · cases written
          · next free =>
            cases written
            exact ⟨by simpa using noSlash, location, name, place, last, entered, free, rfl⟩
  · rintro ⟨noSlash, directory, name, place, last, entered, free, rfl⟩
    refine ⟨_, last, ?_⟩
    simp only [noSlash, Bool.false_eq_true, if_false, bind_eq_ok]
    refine ⟨place, entered, ?_⟩
    split
    · next there => exact absurd there free
    · rfl

theorem writeFile_eq_ok (written : tree.writeFile path contents = .ok after) :
    Path.endsInSlash path = false ∧
      ∃ place, place ≠ [] ∧ tree.locate path = .ok place ∧ tree.find? place ≠ some .directory ∧
        after = tree.put place (.file contents) := by
  obtain ⟨noSlash, _, _, place, last, entered, free, whole⟩ := writeFile_eq_ok_iff.mp written
  exact ⟨noSlash, place, enter_into_ne_nil entered, (locate_of_locateLast last).trans entered, free,
    whole⟩

theorem makeDirectory_changes (made : tree.makeDirectory path = .ok after) :
    tree.Changes after places := by
  obtain ⟨place, named, _, absent, rfl⟩ := makeDirectory_eq_ok made
  exact .put_directory named absent

theorem makeInnermost_changes (tree : FileTree) (paths : List String) :
    tree.Changes (tree.makeInnermost paths).1 places := by
  induction paths generalizing tree with
  | nil => exact .refl tree places
  | cons path outer inductionHypothesis =>
    unfold makeInnermost
    split
    · next made => exact makeDirectory_changes made
    · -- the directories around it come first, and then it is tried again
      have around := inductionHypothesis tree
      split
      · next failed => rwa [failed] at around
      · next outerMade =>
        rw [outerMade] at around
        split
        · next made => exact around.trans (makeDirectory_changes made)
        · exact around
    · exact .refl tree places

/-- Making directories changes nothing else, also where it fails. -/
theorem makeDirectories_changes {outcome : Except FileFault Unit}
    (made : before.makeDirectories path = (after, outcome)) : before.Changes after places := by
  have changes : before.Changes (before.makeDirectories path).1 places :=
    makeInnermost_changes before (Path.ancestors path)
  rwa [made] at changes

/-! ## Saving -/

/-- The directories that a path lies in have been made. -/
def MakesAround (before : FileTree) (path : String) (after : FileTree) : Prop :=
  match Path.parent? path with
  | none => after = before
  | some directory => before.makeDirectories directory = (after, .ok ())

/-- A file has been written, after the directories that its path lies in have been made. -/
def Saves (before : FileTree) (path : String) (contents : ByteArray) (after : FileTree) : Prop :=
  ∃ made, before.MakesAround path made ∧ made.writeFile path contents = .ok after

theorem MakesAround.changes (around : before.MakesAround path after) :
    before.Changes after places := by
  unfold MakesAround at around
  split at around
  · rw [around]
    exact .refl before places
  · exact makeDirectories_changes around

theorem Saves.changes (saves : before.Saves path contents after) :
    before.Changes after fun place => after.locate path = .ok place := by
  obtain ⟨made, around, written⟩ := saves
  obtain ⟨_, place, named, located, free, rfl⟩ := writeFile_eq_ok written
  have put : made.Changes (made.put place (.file contents)) (· = place) := .put_file named free
  -- the path leads to the same place before and after the file is put there
  refine around.changes.trans (put.mono ?_)
  rintro _ rfl
  exact put.locate located

/-- A saved file is at the place that its path leads to. -/
theorem Saves.exists_place (saves : before.Saves path contents after) :
    Path.endsInSlash path = false ∧
      ∃ place, after.locate path = .ok place ∧ after.find? place = some (.file contents) := by
  obtain ⟨made, _, written⟩ := saves
  obtain ⟨noSlash, place, named, located, free, rfl⟩ := writeFile_eq_ok written
  have put : made.Changes (made.put place (.file contents)) (· = place) := .put_file named free
  exact ⟨noSlash, place, put.locate located, find?_put_self named made _⟩

theorem readFile_of_find? {place : Location} (noSlash : Path.endsInSlash path = false)
    (located : tree.locate path = .ok place) (there : tree.find? place = some (.file contents)) :
    tree.readFile path = .ok contents := by
  simp only [readFile, located, noSlash, Bool.false_eq_true, if_false, bind_eq_ok]
  refine ⟨place, rfl, place, rfl, ?_⟩
  rw [there]
  rfl

end WireSchema.FileTree
