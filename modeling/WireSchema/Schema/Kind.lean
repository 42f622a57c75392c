/-! # Kinds of fields

The kind of a field is the keyword it is declared with.  On the wire several kinds are one:
two of them travel as a 32-bit integer, and five as a 64-bit number.
-/

namespace WireSchema

/-- The declared kind of a field. -/
inductive Kind where
  | bool
  | integer
  | int32
  | int64
  | uint32
  | uint64
  | float32
  | float64
  | string
  | bytes
  | enum
  | struct
  deriving DecidableEq, Repr

namespace Kind

/-- Every kind, in the order in which messages list them. -/
def all : List Kind :=
  [bool, integer, int32, int64, uint32, uint64, float32, float64, string, bytes, enum, struct]

def keyword : Kind → String
  | bool => "bool"
  | integer => "integer"
  | int32 => "int32"
  | int64 => "int64"
  | uint32 => "uint32"
  | uint64 => "uint64"
  | float32 => "float32"
  | float64 => "float64"
  | string => "string"
  | bytes => "bytes"
  | enum => "enum"
  | struct => "struct"

/-- The kind that a keyword declares. -/
def ofKeyword? (keyword : String) : Option Kind :=
  all.find? (·.keyword == keyword)

/-- Reading a keyword undoes writing it. -/
theorem ofKeyword?_keyword (kind : Kind) : ofKeyword? kind.keyword = some kind := by
  cases kind <;> decide

/-- Kinds that travel as a 32-bit integer. -/
def isNarrow : Kind → Bool
  | integer | int32 => true
  | _ => false

/-- Kinds that travel as the one 64-bit number, among them both floating-point kinds. -/
def isWide : Kind → Bool
  | int64 | uint32 | uint64 | float32 | float64 => true
  | _ => false

/-- Kinds that hold a number. -/
def isNumeric (kind : Kind) : Bool :=
  kind.isNarrow || kind.isWide

/-- Kinds that refer to a declaration. -/
def isReference : Kind → Bool
  | enum | struct => true
  | _ => false

end Kind

end WireSchema
