import WireSchema.Config

/-! # The log of a run

A run reports what it does as a list of events.

* `Event` is what can be reported, with its level and its wording.
* `Logged` is a result together with the events on the way to it, also where the result is a
  failure.
-/

namespace WireSchema

/-! ## Events -/

/-- How much an event matters. -/
inductive Level where
  | error
  | warn
  | info
  | debug
  | trace
  deriving DecidableEq, Repr

namespace Level

def name : Level → String
  | error => "ERROR"
  | warn => "WARN"
  | info => "INFO"
  | debug => "DEBUG"
  | trace => "TRACE"

/-- How many levels are at least as important. -/
def rank : Level → Nat
  | error => 1
  | warn => 2
  | info => 3
  | debug => 4
  | trace => 5

end Level

/-- Something that a run reports. -/
inductive Event where
  /-- The settings are known. -/
  | configured (config : Config)
  /-- A referenced type is declared nowhere, and its bare name is used. -/
  | undeclared (type : String)
  | renderingStruct (name placement : String)
  | renderingEnum (name placement : String)
  | wrote (path : String) (bytes : Nat)
  /-- A module is done. -/
  | generated (files : Nat) (module : String)
  /-- The run is done. -/
  | finished (files : Nat)
  deriving DecidableEq

namespace Event

def level : Event → Level
  | configured _ | renderingStruct _ _ | renderingEnum _ _ => .debug
  | undeclared _ => .warn
  | wrote _ _ | generated _ _ | finished _ => .info

def message : Event → String
  | configured config => "generator config: " ++ config.describe
  | undeclared type =>
    "type '" ++ type ++ "' is not declared in any module, using the bare name"
  | renderingStruct name placement => "rendering struct " ++ name ++ " in '" ++ placement ++ "'"
  | renderingEnum name placement => "rendering enum " ++ name ++ " in '" ++ placement ++ "'"
  | wrote path bytes => "wrote " ++ path ++ " (" ++ toString bytes ++ " bytes)"
  | generated files module =>
    "generated " ++ toString files ++ " file(s) for module " ++ module
  | finished files => "sprotogen wrote " ++ toString files ++ " file(s)"

/-- The line that the log shows for an event. -/
def line (event : Event) : String :=
  event.level.name ++ " " ++ event.message

end Event

/-! ## Results with their events -/

/-- A result, and what was reported on the way to it. -/
structure Logged (ε α : Type) where
  events : List Event
  outcome : Except ε α

namespace Logged

variable {ε α β : Type}

/-- A result that nothing is reported for. -/
def ofExcept (outcome : Except ε α) : Logged ε α := ⟨[], outcome⟩

def report (event : Event) : Logged ε Unit := ⟨[event], .ok ()⟩

def fail (e : ε) : Logged ε α := ⟨[], .error e⟩

/-- Goes on with a result.  After a failure nothing more is reported. -/
def andThen (x : Logged ε α) (f : α → Logged ε β) : Logged ε β :=
  match x.outcome with
  | .error e => ⟨x.events, .error e⟩
  | .ok a => ⟨x.events ++ (f a).events, (f a).outcome⟩

instance : Monad (Logged ε) where
  pure a := ⟨[], .ok a⟩
  bind := andThen

/-- Rewords a failure. -/
def mapError {δ : Type} (f : ε → δ) (x : Logged ε α) : Logged δ α :=
  ⟨x.events, x.outcome.mapError f⟩

/-- Works through a list from left to right, up to the first failure. -/
def forEach (f : α → Logged ε β) : List α → Logged ε (List β)
  | [] => pure []
  | a :: as => do
    let b ← f a
    let bs ← forEach f as
    return b :: bs

@[simp] theorem events_pure (a : α) : (pure a : Logged ε α).events = [] := rfl

@[simp] theorem outcome_pure (a : α) : (pure a : Logged ε α).outcome = .ok a := rfl

theorem bind_def (x : Logged ε α) (f : α → Logged ε β) : x >>= f = x.andThen f := rfl

end Logged

end WireSchema
