import WireSchema.Json.DecodeError
import WireSchema.Json.Reader

/-! # Making values of JSON

A decoder walks the tree of a document in the order of its text, so that the first problem of
the text is the one it reports, be it a malformed place or a value of the wrong type.

* `Decoder` and the decoders of texts, numbers, lists and optional values.
* `RecordFormat` describes a record by its fields; `RecordFormat.decode` reads it from an
  object, in any order of its members, or from a list in the order of the fields.
* `Decoder.ofText` decodes a whole document.
-/

namespace WireSchema

/-- Makes a value of the tree of a document. -/
abbrev Decoder (α : Type) := Json → Except DecodeError α

namespace Json

/-! ## Values of the wrong type -/

/-- The refusal of a value in a place that asks for something else.  A list or an object is
    refused as soon as it opens; any other value is read first. -/
def refuse (wanted : String) : Json → DecodeError
  | .null => .wrongType .null wanted
  | .bool value => .wrongType (.bool value) wanted
  | .number (.integer n) => .wrongType (.integer n) wanted
  | .number (.float x) => .wrongType (.float x) wanted
  | .number .outOfRange => .malformed .numberOutOfRange
  | .text (.ok s) => .wrongType (.text s) wanted
  | .text (.error problem) => .malformed problem
  | .array _ _ => .wrongType .list wanted
  | .object _ _ => .wrongType .object wanted
  | .brokenText fault | .broken fault => .malformed fault.wanted
  | .missing problem => .malformed problem

/-- Turns a problem of the text into a refusal. -/
def checked {α : Type} (result : Except Malformed α) : Except DecodeError α :=
  result.mapError .malformed

/-! ## Simple values -/

/-- A text, in a place that asks for `wanted`. -/
def decodeTextAs (wanted : String) : Decoder String
  | .text (.ok s) => .ok s
  | json => .error (json.refuse wanted)

def decodeText : Decoder String := decodeTextAs "a string"

def decodeBool : Decoder Bool
  | .bool value => .ok value
  | json => .error (json.refuse "a boolean")

/-- A wire tag: an integer of 16 bits. -/
def decodeTag : Decoder UInt16
  | .number (.integer n) =>
    if 0 ≤ n ∧ n < 65536 then .ok (UInt16.ofNat n.toNat) else .error (.tagOutOfRange n)
  | json => .error (json.refuse "u16")

/-- The double nearest to an integer of at most 64 bits. -/
def floatOfInt (n : Int) : Float :=
  let magnitude := n.natAbs.toUInt64.toFloat
  if n < 0 then -magnitude else magnitude

/-- A double; an integer stands for the double nearest to it. -/
def decodeFloat : Decoder Float
  | .number (.integer n) => .ok (floatOfInt n)
  | .number (.float x) => .ok x
  | json => .error (json.refuse "f64")

/-- A value that may be absent: `null` stands for its absence. -/
def decodeOption {α : Type} (decode : Decoder α) : Decoder (Option α)
  | .null => .ok none
  | json => (decode json).map some

/-! ## Lists -/

/-- The values of the items of a list, up to the first problem. -/
def decodeItems {α : Type} (decode : Decoder α) : List Json → Except DecodeError (List α)
  | [] => .ok []
  | item :: items => do
    let value ← decode item
    let values ← decodeItems decode items
    return value :: values

def decodeList {α : Type} (decode : Decoder α) : Decoder (List α)
  | .array items ending => do
    let values ← decodeItems decode items
    checked ending.wanted
    return values
  | json => .error (json.refuse "a sequence")

end Json

/-! ## Records -/

/-- A field of a record of type `ρ`. -/
structure FieldFormat (ρ : Type) where
  key : String
  /-- Whether the field has no default. -/
  required : Bool
  /-- Reads the value of the field and tells how to store it. -/
  read : Json → Except DecodeError (ρ → ρ)

/-- The form of a record of type `ρ`: its fields in declaration order, and the record whose
    fields all have their defaults. -/
structure RecordFormat (ρ : Type) where
  name : String
  blank : ρ
  fields : List (FieldFormat ρ)

/-- A required field, with its decoder and its setter. -/
def FieldFormat.mandatory {ρ α : Type} (key : String) (decode : Decoder α)
    (store : α → ρ → ρ) : FieldFormat ρ where
  key := key
  required := true
  read json := (decode json).map store

/-- A field with a default, with its decoder and its setter. -/
def FieldFormat.optional {ρ α : Type} (key : String) (decode : Decoder α)
    (store : α → ρ → ρ) : FieldFormat ρ where
  key := key
  required := false
  read json := (decode json).map store

namespace RecordFormat

variable {ρ : Type}

def field? (format : RecordFormat ρ) (key : String) : Option (FieldFormat ρ) :=
  format.fields.find? (·.key == key)

/-- Stores the members of an object one after the other.  `seen` holds the keys that have been
    met.  Members with other keys are passed over. -/
def readMembers (format : RecordFormat ρ) :
    (seen : List String) → ρ → List (Json.Key × Json) → Except DecodeError (List String × ρ)
  | seen, record, [] => .ok (seen, record)
  | seen, record, (key, value) :: members => do
    let key ← Json.checked key
    match format.field? key with
    | none =>
      Json.checked value.skip
      readMembers format seen record members
    | some field =>
      -- A repeated key is refused before its value is looked at.
      if key ∈ seen then throw (.duplicateField key)
      let store ← field.read value
      readMembers format (key :: seen) (store record) members

/-- The first required field that has not been met. -/
def missing? (format : RecordFormat ρ) (seen : List String) : Option (FieldFormat ρ) :=
  format.fields.find? fun field => field.required && !seen.contains field.key

/-- Reads a record from the members of an object. -/
def ofMembers (format : RecordFormat ρ) (members : List (Json.Key × Json))
    (ending : ObjectEnd) : Except DecodeError ρ := do
  let (seen, record) ← format.readMembers [] format.blank members
  Json.checked ending.wanted
  match format.missing? seen with
  | some field => throw (.missingField field.key)
  | none => return record

/-- Stores the items of a list in the fields, in declaration order.  `index` counts the items
    that have been read. -/
def readItems (format : RecordFormat ρ) (ending : ListEnd) :
    (index : Nat) → ρ → List (FieldFormat ρ) → List Json → Except DecodeError ρ
  | _, record, [], [] => do
    Json.checked ending.full
    return record
  | _, _, [], _ :: _ => .error (.malformed .trailingCharacters)
  | index, record, field :: fields, [] => do
    -- A list that cannot be read on is refused for that, before any field is missed.
    Json.checked ending.wanted
    if field.required then throw (.listTooShort index format.name format.fields.length)
    readItems format ending (index + 1) record fields []
  | index, record, field :: fields, item :: items => do
    let store ← field.read item
    readItems format ending (index + 1) (store record) fields items

/-- Reads a record from an object, or from a list of its fields. -/
def decode (format : RecordFormat ρ) : Decoder ρ
  | .object members ending => format.ofMembers members ending
  | .array items ending => format.readItems ending 0 format.blank format.fields items
  | json => .error (json.refuse ("struct " ++ format.name))

end RecordFormat

/-! ## Documents -/

/-- Decodes a whole document: a value with nothing but white space around it. -/
def Decoder.ofText {α : Type} (decode : Decoder α) (text : String) : Except DecodeError α := do
  let (json, rest) := Json.read text
  let value ← decode json
  if Json.endsWell rest then return value else throw (.malformed .trailingCharacters)

end WireSchema
