import WireSchema.Text.Uppercase

/-! # Calls that move a member across the wire

A generated class reads each member by one expression over the decoder, and writes it by one
call of the encoder.

* `ReadCall` is what a member is read with.
* `WriteCall` is what it is written with: a method, the wire tag, and an `Operand` made of the
  member.
* `getterName` and its companions are the names of the accessors of a member.
-/

namespace WireSchema.Output

/-! ## Accessor names -/

def getterName (field : String) : String := "get" ++ Text.capitalize field

def setterName (field : String) : String := "set" ++ Text.capitalize field

def presenceName (field : String) : String := "isSet" ++ Text.capitalize field

def fractionGetterName (field : String) : String := getterName field ++ "Ext"

def fractionSetterName (field : String) : String := setterName field ++ "Ext"

/-! ## Reading -/

/-- An expression that reads a member. -/
inductive ReadCall where
  | flag (tag : UInt16)
  | number (tag : UInt16)
  /-- A number of which the lower 32 bits are kept. -/
  | narrowNumber (tag : UInt16)
  | flags
  | narrowNumbers
  | numbers
  | text
  | texts
  | blob
  /-- The member of an enum at the position that was sent. -/
  | enumMember (className : String) (tag : UInt16)
  | enumMembers (className : String)
  | object (className : String)
  | objects (className : String)
  /-- Objects by the value of one of their getters. -/
  | objectMap (className getter : String)
  deriving DecidableEq

namespace ReadCall

def spelling : ReadCall → String
  | flag tag => "decoder.readBool(" ++ toString tag.toNat ++ ")"
  | number tag => "decoder.readNumber(" ++ toString tag.toNat ++ ")"
  | narrowNumber tag => "(int)decoder.readNumber(" ++ toString tag.toNat ++ ")"
  | flags => "decoder.readBooleanArray()"
  | narrowNumbers => "decoder.readIntArray()"
  | numbers => "decoder.readLongArray()"
  | text => "decoder.readString()"
  | texts => "decoder.readStringArray()"
  | blob => "decoder.readBinary()"
  | enumMember className tag =>
    className ++ ".byInt((int)decoder.readNumber(" ++ toString tag.toNat ++ "))"
  | enumMembers className => "enums(decoder.readIntArray()," ++ className ++ "::byInt)"
  | object className => "decoder.readObject(" ++ className ++ "::new)"
  | objects className => "decoder.readList(new LinkedList<>()," ++ className ++ "::new)"
  | objectMap className getter =>
    "decoder.readMap(new HashMap<>()," ++ className ++ "::new," ++ className ++ "::" ++
      getter ++ ")"

end ReadCall

/-! ## Writing -/

/-- The methods of the encoder. -/
inductive WriteMethod where
  | number
  | numbers
  | flags
  | text
  | texts
  | blob
  | object
  | objects
  deriving DecidableEq

def WriteMethod.name : WriteMethod → String
  | number => "writeNumber"
  | numbers => "writeNumberArray"
  | flags => "writeBooleanArray"
  | text => "writeString"
  | texts => "writeStringArray"
  | blob => "writeBinary"
  | object => "writeObject"
  | objects => "writeObjectList"

/-- What is made of a member before it is written. -/
inductive Operand where
  | itself
  /-- One for true and zero for false. -/
  | flag
  /-- The position of an enum member. -/
  | ordinal
  /-- The positions of enum members of the given class. -/
  | ordinals (className : String)
  /-- The elements of a map, without their keys. -/
  | values
  deriving DecidableEq

/-- The text of an operand that is made of the member `name`. -/
def Operand.spelling (name : String) : Operand → String
  | itself => name
  | flag => name ++ "?1:0"
  | ordinal => name ++ ".ordinal()"
  | ordinals className => "enums(" ++ name ++ "," ++ className ++ "::ordinal)"
  | values => name ++ ".values()"

/-- A call that writes a member. -/
structure WriteCall where
  method : WriteMethod
  tag : UInt16
  /-- The member, by its unqualified name. -/
  member : String
  operand : Operand
  deriving DecidableEq

def WriteCall.spelling (call : WriteCall) : String :=
  "encoder." ++ call.method.name ++ "(" ++ toString call.tag.toNat ++ "," ++
    call.operand.spelling call.member ++ ")"

end WireSchema.Output
