import WireSchema.Proofs.FileTrees

/-! # Writing to a tree again

What has been written once can be written again: directories are found made, and paths lead where
they led.  A file may be put over a newer one on the way, as long as the newer one is put back.

* `store_store_self`, `store_comm` and `store_eq_self` — how entries that are put one after the
  other get along.
* `Rewritten` — a tree in which some files have been written over.  `Rewritten.restore` puts one of
  them back.
* `makeDirectories_again` and `Saves.again` — making directories and saving a file for the second
  time.  `Saves.unique` says that there is one way to save.
-/

namespace WireSchema

namespace FileTree

/-! ## Entries that are put over others -/

section Putting

variable {entries : List (Location × Entry)} {place elsewhere : Location} {entry other : Entry}
  {tree : FileTree}

theorem lookup_cons_of_ne {location : Location} (apart : location ≠ place) :
    ((location, other) :: entries).lookup place = entries.lookup place := by
  have differs : (place == location) = false := by simpa using Ne.symm apart
  rw [List.lookup_cons, differs]

theorem store_store_self (place : Location) (entry other : Entry)
    (entries : List (Location × Entry)) :
    store place entry (store place other entries) = store place entry entries := by
  induction entries with
  | nil => simp [store]
  | cons head entries inductionHypothesis =>
    by_cases here : head.1 = place
    · simp [store, here]
    · simp [store, here, inductionHypothesis]

/-- The order in which two places are written does not matter, if one of them is there already. -/
theorem store_comm (apart : place ≠ elsewhere) (there : (entries.lookup place).isSome) :
    store place entry (store elsewhere other entries) =
      store elsewhere other (store place entry entries) := by
  induction entries with
  | nil => simp at there
  | cons head entries inductionHypothesis =>
    obtain ⟨location, held⟩ := head
    by_cases here : location = place
    · simp [store, here, apart]
    · have later : (entries.lookup place).isSome := lookup_cons_of_ne here ▸ there
      by_cases second : location = elsewhere
      · simp [store, second, Ne.symm apart]
      · simp [store, here, second, inductionHypothesis later]

theorem store_eq_self (there : entries.lookup place = some entry) :
    store place entry entries = entries := by
  induction entries with
  | nil => simp at there
  | cons head entries inductionHypothesis =>
    obtain ⟨location, held⟩ := head
    by_cases here : location = place
    · subst here
      have same : held = entry := by simpa using there
      simp [store, same]
    · have later : entries.lookup place = some entry := lookup_cons_of_ne here ▸ there
      simp [store, here, inductionHypothesis later]

theorem find?_eq_lookup (named : place ≠ []) (tree : FileTree) :
    tree.find? place = tree.entries.lookup place := by
  simp [find?, named]

theorem put_put_self (tree : FileTree) (place : Location) (entry other : Entry) :
    (tree.put place other).put place entry = tree.put place entry := by
  simp [put, store_store_self]

theorem put_comm (apart : place ≠ elsewhere) (named : place ≠ [])
    {held : Entry} (there : tree.find? place = some held) :
    (tree.put elsewhere other).put place entry = (tree.put place entry).put elsewhere other := by
  rw [find?_eq_lookup named] at there
  simp [put, store_comm apart, there]

theorem put_eq_self (named : place ≠ []) (there : tree.find? place = some entry) :
    tree.put place entry = tree := by
  rw [find?_eq_lookup named] at there
  simp [put, store_eq_self there]

theorem ne_nil_of_file {contents : ByteArray} (there : tree.find? place = some (.file contents)) :
    place ≠ [] := by
  rintro rfl
  simp [find?] at there

end Putting

/-! ## Files that are written over -/

/-- In some places of `settled`, all of them with a file, another file has been put. -/
inductive Rewritten (settled : FileTree) (places : Location → Prop) : FileTree → Prop where
  | same : Rewritten settled places settled
  | put {tree : FileTree} {place : Location} {contents held : ByteArray} :
      Rewritten settled places tree → places place →
      settled.find? place = some (.file held) →
      Rewritten settled places (tree.put place (.file contents))

namespace Rewritten

variable {settled tree : FileTree} {places more : Location → Prop} {place : Location}
  {contents held : ByteArray}

theorem mono (rewritten : Rewritten settled places tree)
    (subset : ∀ location, places location → more location) : Rewritten settled more tree := by
  induction rewritten with
  | same => exact .same
  | put _ listed there inductionHypothesis =>
    exact .put inductionHypothesis (subset _ listed) there

theorem changes (rewritten : Rewritten settled places tree) : settled.Changes tree places := by
  induction rewritten with
  | same => exact .refl settled places
  | @put tree place _ _ _ listed there inductionHypothesis =>
    obtain ⟨old, occupied⟩ := inductionHypothesis.exists_file there
    refine inductionHypothesis.trans ((Changes.put_file (ne_nil_of_file there) ?_).mono ?_)
    · simp [occupied]
    · rintro _ rfl
      exact listed

/-- Putting the file of a place back leaves one place less to differ. -/
theorem restore (rewritten : Rewritten settled places tree)
    (there : settled.find? place = some (.file held)) :
    Rewritten settled (fun location => places location ∧ location ≠ place)
      (tree.put place (.file held)) := by
  have named := ne_nil_of_file there
  induction rewritten with
  | same =>
    rw [put_eq_self named there]
    exact .same
  | @put tree elsewhere contents _ before listed occupied inductionHypothesis =>
    by_cases here : place = elsewhere
    · subst here
      rw [put_put_self]
      exact inductionHypothesis
    · obtain ⟨old, present⟩ := before.changes.exists_file there
      rw [put_comm here named present]
      exact .put inductionHypothesis ⟨listed, Ne.symm here⟩ occupied

theorem eq_settled (rewritten : Rewritten settled places tree) (none : ∀ place, ¬ places place) :
    tree = settled := by
  cases rewritten with
  | same => rfl
  | put _ listed => exact absurd listed (none _)

end Rewritten

/-! ## Directories that are made again -/

section Again

variable {before after later tree : FileTree} {path : String} {places : Location → Prop}
  {contents : ByteArray}

theorem isDirectory_iff : tree.isDirectory path = true ↔
    ∃ place, tree.locate path = .ok place ∧ tree.find? place = some .directory := by
  unfold isDirectory
  cases tree.locate path with
  | error fault => simp
  | ok place => simp

theorem Changes.isDirectory (changes : before.Changes after places)
    (there : before.isDirectory path = true) : after.isDirectory path = true := by
  obtain ⟨place, located, held⟩ := isDirectory_iff.mp there
  exact isDirectory_iff.mpr ⟨place, changes.locate located, changes.directory held⟩

theorem isDirectory_of_makeDirectory (made : tree.makeDirectory path = .ok after) :
    after.isDirectory path = true := by
  obtain ⟨place, named, located, absent, rfl⟩ := makeDirectory_eq_ok made
  have changes : tree.Changes (tree.put place .directory) (fun _ => False) :=
    .put_directory named absent
  exact isDirectory_iff.mpr ⟨place, changes.locate located, find?_put_self named tree _⟩

/-- A directory cannot be made where one is. -/
theorem makeDirectory_of_isDirectory (there : tree.isDirectory path = true) :
    tree.makeDirectory path = .error .alreadyExists := by
  obtain ⟨place, located, held⟩ := isDirectory_iff.mp there
  unfold makeDirectory
  obtain last | ⟨directory, step, last, entered⟩ := locateLast_of_locate located
  · rw [last]
    rfl
  · rw [last]
    simp only [bind, Except.bind, entered]
    cases step with
    | stay | up => rfl
    | into name =>
      rw [held]
      rfl

/-- Directories that have been made are there. -/
theorem isDirectory_of_makeInnermost {outer : List String}
    (made : tree.makeInnermost (path :: outer) = (after, .ok ())) :
    after.isDirectory path = true := by
  unfold makeInnermost at made
  split at made
  · next first =>
    cases made
    exact isDirectory_of_makeDirectory first
  · split at made
    · cases made
    · split at made
      · next second =>
        cases made
        exact isDirectory_of_makeDirectory second
      · split at made
        · next there =>
          cases made
          exact there
        · cases made
  · split at made
    · next there =>
      cases made
      exact there
    · cases made

theorem makeInnermost_of_isDirectory (there : tree.isDirectory path = true)
    (outer : List String) : tree.makeInnermost (path :: outer) = (tree, .ok ()) := by
  simp [makeInnermost, makeDirectory_of_isDirectory there, there]

theorem ancestors_cases (path : String) :
    Path.ancestors path = [] ∨ ∃ outer, Path.ancestors path = path :: outer := by
  unfold Path.ancestors Path.ancestorsWithin
  cases Path.parent? path with
  | none => exact .inl rfl
  | some parent => exact .inr ⟨_, rfl⟩

/-- Directories that have been made need not be made again. -/
theorem makeDirectories_again (made : before.makeDirectories path = (after, .ok ()))
    (changes : after.Changes later places) :
    later.makeDirectories path = (later, .ok ()) := by
  unfold makeDirectories at made ⊢
  obtain none | ⟨outer, some⟩ := ancestors_cases path
  · rw [none]
    rfl
  · rw [some] at made ⊢
    have there := isDirectory_of_makeInnermost made
    exact makeInnermost_of_isDirectory (changes.isDirectory there) outer

theorem MakesAround.again (around : before.MakesAround path after)
    (changes : after.Changes later places) : later.MakesAround path later := by
  unfold MakesAround at around ⊢
  cases parent : Path.parent? path with
  | none => rfl
  | some directory =>
    rw [parent] at around
    exact makeDirectories_again around changes

/-! ## Files that are saved again -/

/-- A path that has been saved leads to a file in every later tree, and can be saved again. -/
theorem Saves.again (saves : before.Saves path contents after)
    (changes : after.Changes later places) :
    ∃ place held, later.locate path = .ok place ∧ later.find? place = some (.file held) ∧
      ∀ more, later.Saves path more (later.put place (.file more)) := by
  obtain ⟨made, around, written⟩ := saves
  obtain ⟨noSlash, directory, name, place, last, entered, free, rfl⟩ :=
    writeFile_eq_ok_iff.mp written
  have named := enter_into_ne_nil entered
  have put : made.Changes (made.put place (.file contents)) (· = place) := .put_file named free
  have onward : made.Changes later (fun _ => True) :=
    (put.mono fun _ _ => trivial).trans (changes.mono fun _ _ => trivial)
  obtain ⟨held, there⟩ := changes.exists_file (find?_put_self named made _)
  have located : later.locate path = .ok place :=
    onward.locate ((locate_of_locateLast last).trans entered)
  refine ⟨place, held, located, there, fun more => ⟨later, around.again onward, ?_⟩⟩
  exact writeFile_eq_ok_iff.mpr ⟨noSlash, directory, name, place, onward.locateLast last,
    onward.enter entered, by simp [there], rfl⟩

theorem MakesAround.unique {other : FileTree} (around : before.MakesAround path after)
    (around' : before.MakesAround path other) : after = other := by
  unfold MakesAround at around around'
  cases parent : Path.parent? path with
  | none =>
    rw [parent] at around around'
    rw [around, around']
  | some directory =>
    rw [parent] at around around'
    simpa using around.symm.trans around'

/-- There is one way to save a file. -/
theorem Saves.unique {other : FileTree} (saves : before.Saves path contents after)
    (saves' : before.Saves path contents other) : after = other := by
  obtain ⟨made, around, written⟩ := saves
  obtain ⟨_, around', written'⟩ := saves'
  rw [← around.unique around', written] at written'
  exact Except.ok.inj written'

end Again

end FileTree

end WireSchema
