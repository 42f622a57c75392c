import WireSchema.FileTree.Basic
import WireSchema.Log

/-! # Programs over files

What a run does with files is described before it is done: the description can be carried out
on a tree, where everything it does is seen, or on a disk.

* `FileProgram` is a description that ends in a value or in a failure.
* `FileProgram.run` carries it out on a tree.
-/

namespace WireSchema

/-- A description of what is read, written and reported, up to a value or a failure. -/
inductive FileProgram (ε α : Type) where
  | done (outcome : Except ε α)
  | report (event : Event) (next : FileProgram ε α)
  | readFile (path : String) (next : Except FileFault ByteArray → FileProgram ε α)
  | makeDirectories (path : String) (next : Except FileFault Unit → FileProgram ε α)
  | writeFile (path : String) (contents : ByteArray)
      (next : Except FileFault Unit → FileProgram ε α)

namespace FileProgram

variable {ε δ α β : Type}

/-! ## Putting programs together -/

/-- Goes on with the value of a program.  A failure ends it. -/
def andThen (f : α → FileProgram ε β) : FileProgram ε α → FileProgram ε β
  | .done (.ok a) => f a
  | .done (.error e) => .done (.error e)
  | .report event next => .report event (andThen f next)
  | .readFile path next => .readFile path fun result => andThen f (next result)
  | .makeDirectories path next => .makeDirectories path fun result => andThen f (next result)
  | .writeFile path contents next => .writeFile path contents fun result => andThen f (next result)

instance : Monad (FileProgram ε) where
  pure a := .done (.ok a)
  bind x f := x.andThen f

/-- Rewords a failure. -/
def mapError (f : ε → δ) : FileProgram ε α → FileProgram δ α
  | .done outcome => .done (outcome.mapError f)
  | .report event next => .report event (mapError f next)
  | .readFile path next => .readFile path fun result => mapError f (next result)
  | .makeDirectories path next => .makeDirectories path fun result => mapError f (next result)
  | .writeFile path contents next => .writeFile path contents fun result => mapError f (next result)

def ofExcept (outcome : Except ε α) : FileProgram ε α := .done outcome

def log (event : Event) : FileProgram ε Unit := .report event (.done (.ok ()))

/-- Reports events, and ends in a value or a failure. -/
def logAll (events : List Event) (outcome : Except ε α) : FileProgram ε α :=
  events.foldr .report (.done outcome)

/-- Reports what a result comes with, and goes on with the result. -/
def ofLogged (x : Logged ε α) : FileProgram ε α := logAll x.events x.outcome

def read (wrap : FileFault → ε) (path : String) : FileProgram ε ByteArray :=
  .readFile path fun result => .done (result.mapError wrap)

/-- Makes a directory and those around it. -/
def makeAll (wrap : FileFault → ε) (path : String) : FileProgram ε Unit :=
  .makeDirectories path fun result => .done (result.mapError wrap)

def write (wrap : FileFault → ε) (path : String) (contents : ByteArray) : FileProgram ε Unit :=
  .writeFile path contents fun result => .done (result.mapError wrap)

/-- Works through a list from left to right, up to the first failure. -/
def forEach (f : α → FileProgram ε β) : List α → FileProgram ε (List β)
  | [] => pure []
  | a :: as => do
    let b ← f a
    let bs ← forEach f as
    return b :: bs

/-! ## Carrying programs out -/

/-- What a program did to a tree, what it reported, and how it ended. -/
structure Run (ε α : Type) where
  tree : FileTree
  events : List Event
  outcome : Except ε α

/-- Puts an event in front of a run. -/
def Run.reporting (event : Event) (run : Run ε α) : Run ε α :=
  { run with events := event :: run.events }

/-- Carries a program out on a tree. -/
def run : FileProgram ε α → FileTree → Run ε α
  | .done outcome, tree => ⟨tree, [], outcome⟩
  | .report event next, tree => (run next tree).reporting event
  | .readFile path next, tree => run (next (tree.readFile path)) tree
  | .makeDirectories path next, tree =>
    let (made, result) := tree.makeDirectories path
    run (next result) made
  | .writeFile path contents next, tree =>
    match tree.writeFile path contents with
    | .ok written => run (next (.ok ())) written
    | .error fault => run (next (.error fault)) tree

@[simp] theorem run_done (outcome : Except ε α) (tree : FileTree) :
    (FileProgram.done outcome).run tree = ⟨tree, [], outcome⟩ := rfl

/-- A run of two programs one after the other, as a run of the second where the first one
    left the tree. -/
theorem run_bind (x : FileProgram ε α) (f : α → FileProgram ε β) (tree : FileTree) :
    (x >>= f).run tree =
      match x.run tree with
      | ⟨after, events, .ok a⟩ =>
        { (f a).run after with events := events ++ ((f a).run after).events }
      | ⟨after, events, .error e⟩ => ⟨after, events, .error e⟩ := by
  change (x.andThen f).run tree = _
  induction x generalizing tree with
  | done outcome => cases outcome <;> rfl
  | report event next ih =>
    simp only [andThen, run, ih]
    rcases next.run tree with ⟨after, events, _ | _⟩ <;> rfl
  | readFile path next ih => exact ih _ _
  | makeDirectories path next ih => exact ih _ _
  | writeFile path contents next ih =>
    simp only [andThen, run]
    cases tree.writeFile path contents <;> exact ih _ _

end FileProgram

end WireSchema
