import WireSchema.Decimal.Layout
import WireSchema.Json.Malformed
import WireSchema.Text.Quoted

/-! # Why a document is refused

A document is refused because its text is malformed, or because a value in it is not what its
place asks for.

* `Found` is what stands in a place where something else is wanted.
* `DecodeError` is the cause of a refusal, and `DecodeError.message` its wording.
-/

namespace WireSchema

open Decimal (Layout)

/-- A value that is not what its place asks for. -/
inductive Found where
  | null
  | bool (value : Bool)
  | integer (n : Int)
  | float (x : Float)
  | text (s : String)
  | list
  | object
  deriving DecidableEq

/-- How messages set a double: positionally from `0.00001` up to sixteen digits before the
    point, always with a fraction, and with a signed exponent outside. -/
def Found.layout : Layout where
  tie := .even
  positional := some (-4, 16)
  wholeFraction := true

/-- How a message names a value. -/
def Found.describe : Found → String
  | null => "null"
  | bool value => "boolean `" ++ (if value then "true" else "false") ++ "`"
  | integer n => "integer `" ++ toString n ++ "`"
  | float x => "floating point `" ++ layout.format x ++ "`"
  | text s => "string " ++ Text.quote s
  | list => "sequence"
  | object => "map"

/-- The cause of a refusal. -/
inductive DecodeError where
  | malformed (problem : Malformed)
  | wrongType (found : Found) (wanted : String)
  /-- An integer that is no unsigned number of 16 bits. -/
  | tagOutOfRange (n : Int)
  | duplicateField (key : String)
  | missingField (key : String)
  /-- A record given as a list that ends before a field without a default. -/
  | listTooShort (length : Nat) (record : String) (fields : Nat)
  | unknownKind (keyword : String) (keywords : List String)
  deriving DecidableEq

namespace DecodeError

/-- How a message counts the fields of a record. -/
def countOfElements (n : Nat) : String :=
  if n = 1 then "1 element" else toString n ++ " elements"

def message : DecodeError → String
  | malformed problem => problem.message
  | wrongType found wanted => "invalid type: " ++ found.describe ++ ", expected " ++ wanted
  | tagOutOfRange n => "invalid value: integer `" ++ toString n ++ "`, expected u16"
  | duplicateField key => "duplicate field `" ++ key ++ "`"
  | missingField key => "missing field `" ++ key ++ "`"
  | listTooShort length record fields =>
    "invalid length " ++ toString length ++ ", expected struct " ++ record ++ " with " ++
      countOfElements fields
  | unknownKind keyword keywords =>
    "unknown variant `" ++ keyword ++ "`, expected one of " ++
      ", ".intercalate (keywords.map fun k => "`" ++ k ++ "`")

end DecodeError

end WireSchema
