import WireSchema.Proofs.FilePrograms
import WireSchema.Proofs.Logged

/-! # Loading before generating

A run over files loads all of its modules before it writes the first file.  What it writes can
therefore not change what it reads, and a module that is refused leaves nothing behind.

* `FileTree.textAt` and `FileTree.moduleAt` — what a path is read as, in a given tree.
* `run_forEach_of_still` — a walk whose steps leave the tree alone is a walk in that one tree.
* `generateFromFiles_loads_first` — the first module that is refused ends the run with an
  untouched tree; without one the run is that of the modules as they stood before it.
-/

namespace WireSchema

open FileProgram

/-! ## What paths are read as -/

namespace FileTree

/-- The text of the file that a path leads to. -/
def textAt (tree : FileTree) (path : String) : Except FileFault String := do
  let contents ← tree.readFile path
  match String.fromUTF8? contents with
  | some text => return text
  | none => throw .notText

/-- The module that the file at a path describes. -/
def moduleAt (tree : FileTree) (path : String) : Except LoadError Module :=
  match tree.textAt path with
  | .error fault => .error (.unreadable path fault)
  | .ok text => (Module.ofText text).mapError .invalid

end FileTree

variable {ε α β : Type} {tree : FileTree} {paths : List String} {config : Config}

theorem run_readText (wrap : FileFault → ε) (path : String) (tree : FileTree) :
    (readText wrap path).run tree = ⟨tree, [], (tree.textAt path).mapError wrap⟩ := by
  have reading : (read wrap path : FileProgram ε ByteArray).run tree =
      ⟨tree, [], (tree.readFile path).mapError wrap⟩ := rfl
  unfold readText FileTree.textAt
  cases contents : tree.readFile path with
  | error fault =>
    rw [contents] at reading
    exact run_bind_of_error reading
  | ok bytes =>
    rw [contents] at reading
    rw [run_bind_of_ok reading]
    simp only [bind, Except.bind]
    cases String.fromUTF8? bytes <;> rfl

/-- Making something of the text of a file. -/
theorem run_readText_bind (wrap : FileFault → ε) (make : String → Except ε α) (path : String)
    (tree : FileTree) :
    (readText wrap path >>= fun text => ofExcept (make text)).run tree =
      ⟨tree, [], (tree.textAt path).mapError wrap >>= make⟩ := by
  have reading := run_readText wrap path tree
  cases text : tree.textAt path with
  | error fault =>
    rw [text] at reading
    exact run_bind_of_error reading
  | ok text' =>
    rw [text] at reading
    exact run_bind_of_ok reading

theorem run_loadModule (path : String) (tree : FileTree) :
    (loadModule path).run tree = ⟨tree, [], tree.moduleAt path⟩ := by
  unfold loadModule FileTree.moduleAt
  rw [run_readText_bind]
  cases tree.textAt path <;> rfl

/-! ## Walks that leave the tree alone -/

/-- Where every step leaves the tree as it is, the whole walk does, and only the results of the
    steps in that tree matter. -/
theorem run_forEach_of_still {f : α → FileProgram ε β} {g : α → Logged ε β}
    (still : ∀ a, (f a).run tree = ⟨tree, (g a).events, (g a).outcome⟩) (as : List α) :
    (forEach f as).run tree =
      ⟨tree, (Logged.forEach g as).events, (Logged.forEach g as).outcome⟩ := by
  induction as with
  | nil => rfl
  | cons a as inductionHypothesis =>
    have head := still a
    unfold forEach Logged.forEach
    cases first : (g a).outcome with
    | error e =>
      rw [first] at head
      rw [run_bind_of_error head, Logged.bind_events_of_error first, Logged.bind_def,
        Logged.andThen, first]
    | ok b =>
      rw [first] at head
      rw [run_bind_of_ok head, Logged.bind_events_of_ok first, Logged.bind_outcome_of_ok first]
      cases rest : (Logged.forEach g as).outcome with
      | error e =>
        rw [rest] at inductionHypothesis
        rw [run_bind_of_error inductionHypothesis, Logged.bind_events_of_error rest,
          Logged.bind_def, Logged.andThen, rest]
      | ok bs =>
        rw [rest] at inductionHypothesis
        rw [run_bind_of_ok inductionHypothesis, Logged.bind_events_of_ok rest,
          Logged.bind_outcome_of_ok rest]
        rfl

/-! ## Loading -/

namespace FileTree

/-- The paths lead to modules, one each. -/
def Holds (tree : FileTree) (paths : List String) (modules : List Module) : Prop :=
  List.Forall₂ (fun path module => tree.moduleAt path = .ok module) paths modules

/-- The first of the paths that leads to no module, with the error that it is refused with. -/
structure RefusesAt (tree : FileTree) (paths : List String) (position : Nat) (e : LoadError) :
    Prop where
  before : ∀ path ∈ paths.take position, ∃ module, tree.moduleAt path = .ok module
  refused : ∃ path, paths[position]? = some path ∧ tree.moduleAt path = .error e

/-- What loading the modules of paths gives. -/
def loading (tree : FileTree) (paths : List String) : Logged LoadError (List Module) :=
  .forEach (fun path => .ofExcept (tree.moduleAt path)) paths

theorem loading_outcome_ok {modules : List Module} :
    (tree.loading paths).outcome = .ok modules ↔ tree.Holds paths modules :=
  Logged.forEach_outcome_ok

theorem loading_outcome_error {e : LoadError} :
    (tree.loading paths).outcome = .error e ↔ ∃ position, tree.RefusesAt paths position e := by
  rw [loading, Logged.forEach_outcome_error]
  exact exists_congr fun position =>
    ⟨fun stops => ⟨stops.before, stops.fails⟩, fun refuses => ⟨refuses.before, refuses.refused⟩⟩

end FileTree

theorem run_loadAll (paths : List String) (tree : FileTree) :
    (FileProgram.forEach loadModule paths).run tree =
      ⟨tree, [], (tree.loading paths).outcome⟩ := by
  have silent : (tree.loading paths).events = [] := by
    refine List.eq_nil_iff_forall_not_mem.mpr fun event member => ?_
    obtain ⟨_, _, nothing⟩ := Logged.mem_forEach_events member
    cases nothing
  have still (path : String) : (loadModule path).run tree =
      ⟨tree, (Logged.ofExcept (tree.moduleAt path)).events, (Logged.ofExcept
        (tree.moduleAt path)).outcome⟩ := run_loadModule path tree
  rw [run_forEach_of_still still, ← silent]
  rfl

theorem run_generateFromFiles (paths : List String) (config : Config) (tree : FileTree) :
    (generateFromFiles paths config).run tree =
      match (tree.loading paths).outcome with
      | .ok modules => (generate modules config).run tree
      | .error e => ⟨tree, [], .error (.load e)⟩ := by
  have loads := run_mapError GenerateError.load (FileProgram.forEach loadModule paths) tree
  rw [run_loadAll] at loads
  unfold generateFromFiles
  cases loaded : (tree.loading paths).outcome with
  | ok modules =>
    rw [loaded] at loads
    rw [run_bind_of_ok loads]
    rfl
  | error e =>
    rw [loaded] at loads
    exact run_bind_of_error loads

theorem run_generateFromFiles_of_holds {modules : List Module} (config : Config)
    (holds : tree.Holds paths modules) :
    (generateFromFiles paths config).run tree = (generate modules config).run tree := by
  rw [run_generateFromFiles, FileTree.loading_outcome_ok.mpr holds]

theorem run_generateFromFiles_of_refusesAt {position : Nat} {e : LoadError} (config : Config)
    (refuses : tree.RefusesAt paths position e) :
    (generateFromFiles paths config).run tree = ⟨tree, [], .error (.load e)⟩ := by
  rw [run_generateFromFiles, FileTree.loading_outcome_error.mpr ⟨position, refuses⟩]

theorem FileTree.Holds.exists_module {modules : List Module} {path : String}
    (holds : tree.Holds paths modules) (listed : path ∈ paths) :
    ∃ module, tree.moduleAt path = .ok module := by
  obtain ⟨module, _, there⟩ := Logged.exists_of_forEach (loading_outcome_ok.mpr holds) listed
  exact ⟨module, there⟩

/-- All modules are loaded, or a first one is refused. -/
theorem holds_or_refusesAt (tree : FileTree) (paths : List String) :
    (∃ modules, tree.Holds paths modules) ∨ ∃ position e, tree.RefusesAt paths position e := by
  cases loaded : (tree.loading paths).outcome with
  | ok modules => exact .inl ⟨modules, FileTree.loading_outcome_ok.mp loaded⟩
  | error e =>
    obtain ⟨position, refuses⟩ := FileTree.loading_outcome_error.mp loaded
    exact .inr ⟨position, e, refuses⟩

/-- If a module cannot be loaded, the first such one in the order of the paths ends the run, and
    the tree is as it was.  If all of them can, the run is that of the modules as they are in the
    tree before it, whatever is written over their files. -/
theorem generateFromFiles_loads_first (paths : List String) (config : Config) (tree : FileTree) :
    let run := (generateFromFiles paths config).run tree
    ((∃ path ∈ paths, ∃ e, tree.moduleAt path = .error e) →
      ∃ position e, tree.RefusesAt paths position e ∧ run = ⟨tree, [], .error (.load e)⟩) ∧
    ((∀ path ∈ paths, ∃ module, tree.moduleAt path = .ok module) →
      ∃ modules, tree.Holds paths modules ∧ run = (generate modules config).run tree) := by
  obtain ⟨modules, holds⟩ | ⟨position, e, refuses⟩ := holds_or_refusesAt tree paths
  · refine ⟨?_, fun _ => ⟨modules, holds, run_generateFromFiles_of_holds config holds⟩⟩
    rintro ⟨path, listed, e, refused⟩
    obtain ⟨module, there⟩ := holds.exists_module listed
    rw [there] at refused
    cases refused
  · refine ⟨fun _ => ⟨position, e, refuses, run_generateFromFiles_of_refusesAt config refuses⟩, ?_⟩
    intro all
    obtain ⟨path, here, refused⟩ := refuses.refused
    obtain ⟨module, there⟩ := all path (List.mem_of_getElem? here)
    rw [there] at refused
    cases refused

namespace Sample

/-- A tree in which a module stands where the file of its own type is written to. -/
def overlap : FileTree where
  entries := (["Crate.java", "depot", "out"], .file
    "[\"depot.sp\", \"depot\", [], [[\"Crate\", [\"Small\"]]]]".toUTF8) ::
      FileTree.chain ["depot", "out"]
  workingDirectory := []

theorem moduleAt_overlap : overlap.moduleAt "out/depot/Crate.java" =
    .ok ⟨"depot.sp", "depot", [], [.ofMembers "Crate" ["Small"]]⟩ := by decide +kernel

theorem moduleAt_missing : overlap.moduleAt "missing.json" =
    .error (.unreadable "missing.json" .notFound) := by decide +kernel

end Sample

open Sample in
/-- The module is loaded twice before its type is written over it.  With a missing module after it,
    it stays. -/
theorem generateFromFiles_loads_first_overlap :
    let run paths := (generateFromFiles paths (.writingTo "out")).run overlap
    let twice := ["out/depot/Crate.java", "out/depot/Crate.java"]
    let missing := ["out/depot/Crate.java", "missing.json"]
    (∀ path ∈ twice, ∃ module, overlap.moduleAt path = .ok module) ∧
    (∃ modules, overlap.Holds twice modules ∧
      run twice = (generate modules (.writingTo "out")).run overlap) ∧
    (run twice).tree.readFile "out/depot/Crate.java" ≠
      overlap.readFile "out/depot/Crate.java" ∧
    (∃ path ∈ missing, ∃ e, overlap.moduleAt path = .error e) ∧
    ∃ position e, overlap.RefusesAt missing position e ∧
      run missing = ⟨overlap, [], .error (.load e)⟩ := by
  intro run twice missing
  have there : ∀ path ∈ twice, ∃ module, overlap.moduleAt path = .ok module := by
    simp [twice, moduleAt_overlap]
  have absent : ∃ path ∈ missing, ∃ e, overlap.moduleAt path = .error e := by
    simp [missing, moduleAt_missing]
  exact ⟨there, (generateFromFiles_loads_first twice _ overlap).2 there, by decide +kernel, absent,
    (generateFromFiles_loads_first missing _ overlap).1 absent⟩

end WireSchema
