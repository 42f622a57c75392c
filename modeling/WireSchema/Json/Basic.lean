import WireSchema.Json.Literal
import WireSchema.Json.Number

/-! # JSON as it was read

A document becomes a tree before anything is made of it, also when the text is malformed: the
tree then breaks off where the text could not be read on.  Whoever walks the tree in the order
of the text meets the problems in the order of the text.

* `Json` is the tree.
* `ListEnd` and `ObjectEnd` tell how a list and an object end, and what each ending means to
  one who wants the value and to one who passes over it.
* `Json.skip` passes over a value.
* `Json.written` is the tree that a document can hold.
-/

namespace WireSchema

/-! ## Endings -/

/-- How a list ends, after the items that were read. -/
inductive ListEnd where
  | closed
  /-- A comma and the closing bracket. -/
  | trailingComma
  /-- A comma and the end of the text. -/
  | cutAfterComma
  /-- The end of the text. -/
  | cutOff
  /-- A character that is neither a comma nor the closing bracket. -/
  | noSeparator
  /-- The last item could not be read to its end. -/
  | lost
  deriving DecidableEq, Repr

namespace ListEnd

/-- The problem that an ending is for one who wants the items. -/
def wanted : ListEnd → Except Malformed Unit
  | closed | lost => .ok ()
  | trailingComma => .error .trailingComma
  | cutAfterComma => .error .endInValue
  | cutOff => .error .endInList
  | noSeparator => .error .expectedCommaOrBracket

/-- The problem that an ending is for one who passes over the list. -/
def passedOver : ListEnd → Except Malformed Unit
  | closed | lost => .ok ()
  | trailingComma => .error .expectedValue
  | cutAfterComma => .error .endInValue
  | cutOff => .error .endInList
  | noSeparator => .error .expectedCommaOrBracket

/-- The problem that an ending is where no further item may follow. -/
def full : ListEnd → Except Malformed Unit
  | closed | lost => .ok ()
  | trailingComma => .error .trailingComma
  | cutOff => .error .endInList
  | cutAfterComma | noSeparator => .error .trailingCharacters

end ListEnd

/-- How an object ends, after the members that were read. -/
inductive ObjectEnd where
  | closed
  /-- A comma and the closing brace. -/
  | trailingComma
  /-- A comma and the end of the text. -/
  | cutAfterComma
  /-- The end of the text. -/
  | cutOff
  /-- A character that is neither a comma nor the closing brace, after a member. -/
  | noSeparator
  /-- A character where a key should begin. -/
  | keyNotText
  /-- A key that cannot be read to its end. -/
  | brokenKey (fault : Fault)
  /-- The last value could not be read to its end. -/
  | lost
  deriving DecidableEq, Repr

namespace ObjectEnd

/-- The problem that an ending is for one who wants the members. -/
def wanted : ObjectEnd → Except Malformed Unit
  | closed | lost => .ok ()
  | trailingComma => .error .trailingComma
  | cutAfterComma => .error .endInValue
  | cutOff => .error .endInObject
  | noSeparator => .error .expectedCommaOrBrace
  | keyNotText => .error .keyNotText
  | brokenKey fault => .error fault.wanted

/-- The problem that an ending is for one who passes over the object. -/
def passedOver : ObjectEnd → Except Malformed Unit
  | closed | lost => .ok ()
  | trailingComma => .error .keyNotText
  | cutAfterComma => .error .endInObject
  | cutOff => .error .endInObject
  | noSeparator => .error .expectedCommaOrBrace
  | keyNotText => .error .keyNotText
  | brokenKey fault => .error fault.passedOver

end ObjectEnd

/-! ## The tree -/

/-- A key as it was read.  The key of a member is closed, but its text may be refused. -/
abbrev Json.Key := Except Malformed String

/-- A value as it was read. -/
inductive Json where
  | null
  | bool (value : Bool)
  | number (value : Json.Number)
  /-- A text literal that is closed, with its text, which may be refused. -/
  | text (text : Except Malformed String)
  | array (items : List Json) (ending : ListEnd)
  | object (members : List (Json.Key × Json)) (ending : ObjectEnd)
  /-- A text literal that cannot be read to its end. -/
  | brokenText (fault : Fault)
  /-- A number, a keyword or another character that cannot be read on. -/
  | broken (fault : Fault)
  /-- No value was reached. -/
  | missing (problem : Malformed)

namespace Json

/-- The text of a closed literal. -/
def ofString (s : String) : Json := .text (.ok s)

def ofNat (n : Nat) : Json := .number (.integer n)

def ofFloat (x : Float) : Json := .number (.float x)

/-- A value that may be absent. -/
def ofOption {α : Type} (encode : α → Json) : Option α → Json
  | none => .null
  | some value => encode value

/-- A list without any problem. -/
def ofList (items : List Json) : Json := .array items .closed

/-- An object without any problem of its own. -/
def ofMembers (members : List (String × Json)) : Json :=
  .object (members.map fun (key, value) => (.ok key, value)) .closed

/-! ## Passing over a value -/

mutual

/-- Passes over a value: fails with the first problem that makes the end of the value
    unknown. -/
def skip : Json → Except Malformed Unit
  | .null | .bool _ | .number _ | .text _ => .ok ()
  | .array items ending => do
    skipItems items
    ending.passedOver
  | .object members ending => do
    skipMembers members
    ending.passedOver
  | .brokenText fault | .broken fault => .error fault.passedOver
  | .missing problem => .error problem

def skipItems : List Json → Except Malformed Unit
  | [] => .ok ()
  | item :: items => do
    skip item
    skipItems items

def skipMembers : List (Json.Key × Json) → Except Malformed Unit
  | [] => .ok ()
  | (_, value) :: members => do
    skip value
    skipMembers members

end

/-! ## Trees in documents -/

mutual

/-- The tree as a document holds it.  There is no numeral for a double that is not finite: `null`
    stands in its place. -/
def written : Json → Json
  | .number (.float x) => if x.isFinite then .number (.float x) else .null
  | .array items ending => .array (writtenItems items) ending
  | .object members ending => .object (writtenMembers members) ending
  | json => json

def writtenItems : List Json → List Json
  | [] => []
  | item :: items => written item :: writtenItems items

def writtenMembers : List (Json.Key × Json) → List (Json.Key × Json)
  | [] => []
  | (key, value) :: members => (key, written value) :: writtenMembers members

end

end Json

end WireSchema
