import WireSchema.Log
import WireSchema.Text.Blank

/-! # Choosing what the log shows

A filter is a list of directives with commas between them.  A directive is a level, or the
beginning of an origin with the level that holds for it; an origin alone shows everything.

* `Event.origin` tells which part of the program an event comes from.
* `LogFilter.ofText` reads a filter, and `LogFilter.shows` applies it: of the directives that
  fit an event, the one with the longest origin counts.
-/

namespace WireSchema

/-- The part of the program that an event comes from. -/
def Event.origin : Event → String
  | .configured _ | .finished _ => "sprotogen"
  | .undeclared _ => "sprotogen_codegen::java::references"
  | .wrote _ _ => "sprotogen_codegen::emitter"
  | .renderingStruct _ _ | .renderingEnum _ _ | .generated _ _ => "sprotogen_codegen::generator"

/-- A level that is shown for an origin. -/
structure Directive where
  /-- What the origin starts with; the empty text fits every origin. -/
  origin : String
  /-- The number of levels that are shown, the most important ones first. -/
  rank : Nat
  deriving DecidableEq, Repr

namespace Directive

/-- How many levels a word asks for. -/
def rankOf? (word : String) : Option Nat :=
  match word.toLower with
  | "off" | "0" => some 0
  | "error" | "1" | "" => some 1
  | "warn" | "2" => some 2
  | "info" | "3" => some 3
  | "debug" | "4" => some 4
  | "trace" | "5" => some 5
  | _ => none

/-- Whether a directive can start with a character. -/
def startsDirective (c : Char) : Bool :=
  c.isAlphanum || c == '-' || c == ':' || c == '_'

/-- Reads a directive.  What cannot be read says nothing. -/
def ofText? (text : String) : Option Directive :=
  match Text.splitAt '=' text.toList with
  | [[]] => none
  | [word] =>
    if word.head?.any startsDirective then
      match rankOf? (String.ofList word) with
      | some rank => some ⟨"", rank⟩
      -- A word that is no level is an origin.
      | none => some ⟨String.ofList word, Level.trace.rank⟩
    else none
  | [origin, level] =>
    if origin.head?.any startsDirective then
      (rankOf? (String.ofList level)).map fun rank => ⟨String.ofList origin, rank⟩
    else none
  | _ => none

/-- Whether a directive is about an event. -/
def fits (directive : Directive) (event : Event) : Bool :=
  directive.origin.toList.isPrefixOf event.origin.toList

end Directive

/-- What the log shows. -/
abbrev LogFilter := List Directive

namespace LogFilter

/-- The filter that holds if none is given. -/
def standard : String := "info"

/-- Reads a filter.  Where no directive can be read, errors alone are shown. -/
def ofText (text : String) : LogFilter :=
  match (Text.splitAt ',' text.toList).filterMap fun part =>
      Directive.ofText? (String.ofList part) with
  | [] => [⟨"", Level.error.rank⟩]
  | directives => directives

/-- The directive that counts for an event: of those with the longest origin, the last. -/
def decisive? (filter : LogFilter) (event : Event) : Option Directive :=
  (filter.filter (·.fits event)).foldl (fun best directive =>
    match best with
    | none => some directive
    | some other =>
      if other.origin.length ≤ directive.origin.length then some directive else best) none

/-- Whether the log shows an event. -/
def shows (filter : LogFilter) (event : Event) : Bool :=
  match filter.decisive? event with
  | none => false
  | some directive => event.level.rank ≤ directive.rank

end LogFilter

end WireSchema
