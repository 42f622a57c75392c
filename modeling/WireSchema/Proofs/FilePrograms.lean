import WireSchema.Generation.Basic
import WireSchema.Proofs.FileTrees

/-! # Runs of file programs

What a program over files does is a function of its tree.  The steps that a run is made of are
carried out here one by one:

* `run_ofExcept`, `run_ofLogged`, `run_makeAll` and `run_write` are single steps, and
  `run_bind_of_ok` and `run_bind_of_error` put them together.  `run_mapError` rewords a failure.
* `EmitFails` is why a file is not written, and `run_emit` says that nothing else can happen.
  `run_emitContents` is the same for contents that need not be a text.
-/

namespace WireSchema

namespace FileProgram

variable {ε α β : Type} {tree between after : FileTree}

/-! ## Single steps -/

theorem run_logAll (events : List Event) (outcome : Except ε α) (tree : FileTree) :
    (logAll events outcome).run tree = ⟨tree, events, outcome⟩ := by
  induction events with
  | nil => rfl
  | cons event events inductionHypothesis =>
    change ((logAll events outcome).run tree).reporting event = _
    rw [inductionHypothesis]
    rfl

theorem run_ofLogged (x : Logged ε α) (tree : FileTree) :
    (ofLogged x).run tree = ⟨tree, x.events, x.outcome⟩ :=
  run_logAll x.events x.outcome tree

theorem run_ofExcept (outcome : Except ε α) (tree : FileTree) :
    (ofExcept outcome).run tree = ⟨tree, [], outcome⟩ := rfl

theorem run_makeAll (wrap : FileFault → ε) (path : String) (tree : FileTree) :
    (makeAll wrap path).run tree =
      ⟨(tree.makeDirectories path).1, [], (tree.makeDirectories path).2.mapError wrap⟩ := rfl

theorem run_write (wrap : FileFault → ε) (path : String) (contents : ByteArray)
    (tree : FileTree) :
    (write wrap path contents).run tree =
      match tree.writeFile path contents with
      | .ok written => ⟨written, [], .ok ()⟩
      | .error fault => ⟨tree, [], .error (wrap fault)⟩ := by
  unfold write
  simp only [run]
  cases tree.writeFile path contents <;> rfl

/-! ## Sequences -/

theorem run_bind_of_ok {x : FileProgram ε α} {f : α → FileProgram ε β} {events : List Event}
    {a : α} (first : x.run tree = ⟨between, events, .ok a⟩) :
    (x >>= f).run tree =
      { (f a).run between with events := events ++ ((f a).run between).events } := by
  rw [run_bind, first]

theorem run_bind_of_error {x : FileProgram ε α} {f : α → FileProgram ε β} {events : List Event}
    {e : ε} (first : x.run tree = ⟨after, events, .error e⟩) :
    (x >>= f).run tree = ⟨after, events, .error e⟩ := by
  rw [run_bind, first]

theorem bind_assoc {γ : Type} (x : FileProgram ε α) (f : α → FileProgram ε β)
    (g : β → FileProgram ε γ) : x >>= f >>= g = x >>= fun a => f a >>= g := by
  change andThen g (andThen f x) = andThen (fun a => andThen g (f a)) x
  induction x with
  | done outcome => cases outcome <;> rfl
  | _ => simp [andThen, *]

/-- A reworded program does the same, and ends in the reworded failure. -/
theorem run_mapError {δ : Type} (f : ε → δ) (x : FileProgram ε α) (tree : FileTree) :
    (x.mapError f).run tree =
      ⟨(x.run tree).tree, (x.run tree).events, (x.run tree).outcome.mapError f⟩ := by
  induction x generalizing tree with
  | done outcome => rfl
  | report event next inductionHypothesis =>
    simp [mapError, run, Run.reporting, inductionHypothesis]
  | readFile path next inductionHypothesis => exact inductionHypothesis _ _
  | makeDirectories path next inductionHypothesis => exact inductionHypothesis _ _
  | writeFile path contents next inductionHypothesis =>
    simp only [mapError, run]
    cases tree.writeFile path contents <;> exact inductionHypothesis _ _

end FileProgram

/-! ## Writing a file -/

/-- Why a rendered file is not written, and the tree that the attempt leaves behind. -/
inductive EmitFails (config : Config) (file : RenderedFile) (before : FileTree) :
    GenerateError → FileTree → Prop where
  | placing {cause : PlacementError} :
      outputPath config.outDir config.extension file.placement file.typeName = .error cause →
      EmitFails config file before (.placement cause) before
  | makingDirectories {path directory : String} {fault : FileFault} {after : FileTree} :
      outputPath config.outDir config.extension file.placement file.typeName = .ok path →
      Path.parent? path = some directory →
      before.makeDirectories directory = (after, .error fault) →
      EmitFails config file before (.unwritable directory fault) after
  | writing {path : String} {fault : FileFault} {made : FileTree} :
      outputPath config.outDir config.extension file.placement file.typeName = .ok path →
      before.MakesAround path made →
      made.writeFile path file.contents.toUTF8 = .error fault →
      EmitFails config file before (.unwritable path fault) made

theorem EmitFails.changes {config : Config} {file : RenderedFile} {before after : FileTree}
    {e : GenerateError} {places : Location → Prop} (fails : EmitFails config file before e after) :
    before.Changes after places := by
  cases fails with
  | placing => exact .refl before places
  | makingDirectories _ _ made => exact FileTree.makeDirectories_changes made
  | writing _ around _ => exact around.changes

/-- The part of `emitContents` that makes the directories around a path. -/
def makeAround (path : String) : FileProgram GenerateError Unit :=
  match Path.parent? path with
  | none => pure ()
  | some directory => .makeAll (.unwritable directory) directory

/-- The part of `emitContents` that writes to a path. -/
def writeLogged (path : String) (contents : ByteArray) : FileProgram GenerateError String := do
  .write (.unwritable path) path contents
  .log (.wrote path contents.size)
  return path

theorem emitContents_eq (root extension placement typeName : String) (contents : ByteArray) :
    emitContents root extension placement typeName contents = (do
      let path ← .ofExcept ((outputPath root extension placement typeName).mapError .placement)
      makeAround path
      writeLogged path contents) := by
  unfold emitContents makeAround
  congr 1
  funext path
  cases Path.parent? path <;> rfl

open FileProgram

theorem run_makeAround (path : String) (tree : FileTree) :
    (∃ made, tree.MakesAround path made ∧ (makeAround path).run tree = ⟨made, [], .ok ()⟩) ∨
    ∃ directory fault after, Path.parent? path = some directory ∧
      tree.makeDirectories directory = (after, .error fault) ∧
      (makeAround path).run tree = ⟨after, [], .error (.unwritable directory fault)⟩ := by
  unfold makeAround FileTree.MakesAround
  cases Path.parent? path with
  | none => exact .inl ⟨tree, rfl, rfl⟩
  | some directory =>
    simp only [run_makeAll]
    rcases made : tree.makeDirectories directory with ⟨after, _ | _⟩
    · exact .inr ⟨directory, _, after, rfl, made, rfl⟩
    · exact .inl ⟨after, rfl, rfl⟩

theorem run_writeLogged (path : String) (contents : ByteArray) (tree : FileTree) :
    (writeLogged path contents).run tree =
      match tree.writeFile path contents with
      | .ok written => ⟨written, [.wrote path contents.size], .ok path⟩
      | .error fault => ⟨tree, [], .error (.unwritable path fault)⟩ := by
  unfold writeLogged
  rw [run_bind, run_write]
  cases tree.writeFile path contents <;> rfl

/-- Contents are written to the path of a type, with the directories around it, unless the type has
    no path, or the directories cannot be made, or the path is not that of a file. -/
theorem run_emitContents (root extension placement typeName : String) (contents : ByteArray)
    (tree : FileTree) :
    (∃ path after, outputPath root extension placement typeName = .ok path ∧
      tree.Saves path contents after ∧
      (emitContents root extension placement typeName contents).run tree =
        ⟨after, [.wrote path contents.size], .ok path⟩) ∨
    (∃ cause, outputPath root extension placement typeName = .error cause ∧
      (emitContents root extension placement typeName contents).run tree =
        ⟨tree, [], .error (.placement cause)⟩) ∨
    (∃ path directory fault after, outputPath root extension placement typeName = .ok path ∧
      Path.parent? path = some directory ∧
      tree.makeDirectories directory = (after, .error fault) ∧
      (emitContents root extension placement typeName contents).run tree =
        ⟨after, [], .error (.unwritable directory fault)⟩) ∨
    ∃ path made fault, outputPath root extension placement typeName = .ok path ∧
      tree.MakesAround path made ∧ made.writeFile path contents = .error fault ∧
      (emitContents root extension placement typeName contents).run tree =
        ⟨made, [], .error (.unwritable path fault)⟩ := by
  rw [emitContents_eq]
  cases placed : outputPath root extension placement typeName with
  | error cause => exact .inr (.inl ⟨cause, rfl, rfl⟩)
  | ok path =>
    have placing : (FileProgram.ofExcept ((Except.ok path).mapError GenerateError.placement)).run
        tree = ⟨tree, [], .ok path⟩ := run_ofExcept (.ok path) tree
    rw [run_bind_of_ok placing]
    obtain ⟨made, around, makes⟩ | ⟨directory, fault, after, parent, failed, makes⟩ :=
      run_makeAround path tree
    · rw [run_bind_of_ok makes, run_writeLogged]
      cases saved : made.writeFile path contents with
      | ok after => exact .inl ⟨path, after, rfl, ⟨made, around, saved⟩, rfl⟩
      | error fault => exact .inr (.inr (.inr ⟨path, made, fault, rfl, around, saved, rfl⟩))
    · rw [run_bind_of_error makes]
      exact .inr (.inr (.inl ⟨path, directory, fault, after, rfl, parent, failed, rfl⟩))

/-- A file is written to its path, with the directories around it, or else the attempt fails
    without a file written. -/
theorem run_emit (config : Config) (file : RenderedFile) (tree : FileTree) :
    (∃ path after,
      outputPath config.outDir config.extension file.placement file.typeName = .ok path ∧
      tree.Saves path file.contents.toUTF8 after ∧
      (emit config.outDir config.extension file).run tree =
        ⟨after, [.wrote path file.contents.toUTF8.size], .ok path⟩) ∨
    ∃ e after, EmitFails config file tree e after ∧
      (emit config.outDir config.extension file).run tree = ⟨after, [], .error e⟩ := by
  unfold emit
  obtain saved | ⟨_, placed, ran⟩ | ⟨_, _, _, after, placed, parent, failed, ran⟩ |
    ⟨_, made, _, placed, around, failed, ran⟩ := run_emitContents config.outDir config.extension
      file.placement file.typeName file.contents.toUTF8 tree
  · exact .inl saved
  · exact .inr ⟨_, tree, .placing placed, ran⟩
  · exact .inr ⟨_, after, .makingDirectories placed parent failed, ran⟩
  · exact .inr ⟨_, made, .writing placed around failed, ran⟩

end WireSchema
