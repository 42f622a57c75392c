import WireSchema.FileTree.Basic
import WireSchema.Generation.Placement
import WireSchema.Json.DecodeError
import WireSchema.Output.FieldError

/-! # Why a run fails

* `LoadError` is why a module cannot be loaded.
* `GenerateError` is why a run stops.
* `message` is the wording of an error, and `causes` the wordings of an error and of what is
  behind it, outermost first.
-/

namespace WireSchema

inductive LoadError where
  | invalid (cause : DecodeError)
  | unreadable (path : String) (cause : FileFault)
  deriving DecidableEq

namespace LoadError

def message : LoadError → String
  | invalid cause => "invalid schema model: " ++ cause.message
  | unreadable path cause => "failed to read '" ++ path ++ "': " ++ cause.message

def causes (e : LoadError) : List String :=
  match e with
  | invalid cause => [e.message, cause.message]
  | unreadable _ cause => [e.message, cause.message]

end LoadError

/-- Why a run stops. -/
inductive GenerateError where
  | load (cause : LoadError)
  | field (cause : FieldError)
  | placement (cause : PlacementError)
  /-- A directory that cannot be made, or a file that cannot be written. -/
  | unwritable (path : String) (cause : FileFault)
  deriving DecidableEq

namespace GenerateError

def message : GenerateError → String
  | load cause => "schema error: " ++ cause.message
  | field cause => cause.message
  | placement cause => cause.message
  | unwritable path cause => "failed to write '" ++ path ++ "': " ++ cause.message

def causes (e : GenerateError) : List String :=
  match e with
  | load cause => e.message :: cause.causes
  | unwritable _ cause => [e.message, cause.message]
  | _ => [e.message]

end GenerateError

end WireSchema
