import WireSchema.Decimal.Layout
import WireSchema.Schema.Kind

/-! # Why a field cannot be generated

* `FieldError` is the cause, and `FieldError.message` its wording.
* `scaleLayout` is how scales are set, in messages and in the generated source.
-/

namespace WireSchema

/-- Scales are always set positionally, whole ones without a fraction, and a scale halfway
    between two shortest decimals takes the larger one. -/
def scaleLayout : Decimal.Layout where
  tie := .up
  positional := none
  wholeFraction := false

/-- Why a field cannot be generated. -/
inductive FieldError where
  /-- A field of a referring kind that refers to nothing. -/
  | missingReference (field : String) (kind : Kind)
  /-- A map whose elements are of no declared struct. -/
  | unknownType (type field : String)
  /-- A map whose key is no field of its elements. -/
  | unknownMapKey (key type field : String)
  /-- A map whose key is a collection. -/
  | invalidMapKey (key type field : String)
  /-- A scale on a field that is no single number. -/
  | invalidFixedPoint (field : String) (kind : Kind)
  /-- A scale that is not positive, or not finite, or has no finite reciprocal. -/
  | invalidScale (field : String) (scale : Float)
  deriving DecidableEq

def FieldError.message : FieldError → String
  | missingReference field kind =>
    "field '" ++ field ++ "' of kind " ++ kind.keyword ++ " has no referenced type"
  | unknownType type field =>
    "unknown struct '" ++ type ++ "' in map field '" ++ field ++ "'"
  | unknownMapKey key type field =>
    "map key '" ++ key ++ "' of field '" ++ field ++ "' is not declared on '" ++ type ++ "'"
  | invalidMapKey key type field =>
    "map key '" ++ key ++ "' of field '" ++ field ++ "' is a repeated field of '" ++ type ++ "'"
  | invalidFixedPoint field kind =>
    "fixed-point scale on field '" ++ field ++ "' requires a numeric scalar, found " ++
      kind.keyword
  | invalidScale field scale =>
    "fixed-point scale " ++ scaleLayout.format scale ++ " on field '" ++ field ++
      "' must be finite and positive"

end WireSchema
