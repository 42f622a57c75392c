import WireSchema.Output.ClassDecl

/-! # Classes of structs

A struct becomes a class with a presence bitmap, a member and three accessors for every field,
two more accessors where the field has a scale, and the two methods that move an object across
the wire.

* `Scope.bindField` checks a field and binds it.
* `BoundField.accessors` are the accessors of a field.
* `structClass` puts the class together.
-/

namespace WireSchema

open Output

/-! ## Fields -/

/-- A field with its binding. -/
structure Output.BoundField where
  field : Field
  binding : Binding
  deriving DecidableEq

/-- Checks the scale of a field: it has to stand on a single number, and to be valid. -/
def Field.checkScale (field : Field) : Except FieldError Unit :=
  match field.fixedPoint with
  | none => .ok ()
  | some fixed =>
    if field.repeated || !field.kind.isNumeric then
      .error (.invalidFixedPoint field.name field.kind)
    else if fixed.isValid then .ok ()
    else .error (.invalidScale field.name fixed.scale)

/-- Checks a field of a struct that is placed in `viewpoint`, and binds it. -/
def Scope.bindField (scope : Scope) (viewpoint : String) (field : Field) :
    Logged FieldError BoundField := do
  .ofExcept field.checkScale
  let binding ← scope.bind viewpoint field
  return ⟨field, binding⟩

namespace Output

/-! ## Accessors -/

namespace BoundField

def member (bound : BoundField) : Member :=
  ⟨bound.binding.type, bound.field.name, false⟩

def getter (bound : BoundField) : Method where
  result := some bound.binding.type
  name := getterName bound.field.name
  parameters := []
  body := .statements [.answer (.name bound.field.name)]

def setter (bound : BoundField) : Method where
  result := none
  name := setterName bound.field.name
  parameters := [⟨bound.binding.type, "val"⟩]
  body := .statements
    [.assign bound.field.name (.name "val"), .markPresent bound.field.tag]

def presenceCheck (bound : BoundField) : Method where
  result := some .boolean
  name := presenceName bound.field.name
  parameters := []
  body := .statements [.answer (.isPresent bound.field.tag)]

/-- The setter of a scaled field's fraction.  It cuts off what is less than one raw unit. -/
def fractionSetter (bound : BoundField) (fixed : FixedPoint) : Method where
  result := none
  name := fractionSetterName bound.field.name
  parameters := [⟨.float, "val"⟩]
  body := .statements
    [.assign bound.field.name (.truncated bound.binding.type "val" fixed.reciprocal),
     .markPresent bound.field.tag]

def fractionGetter (bound : BoundField) (fixed : FixedPoint) : Method where
  result := some .float
  name := fractionGetterName bound.field.name
  parameters := []
  body := .statements [.answer (.scaled bound.field.name fixed.scale)]

def accessors (bound : BoundField) : List Method :=
  [bound.getter, bound.setter, bound.presenceCheck] ++
    match bound.field.fixedPoint with
    | none => []
    | some fixed => [bound.fractionSetter fixed, bound.fractionGetter fixed]

/-! ## Wire methods -/

/-- What is done with the field's tag on the wire. -/
def readCase (bound : BoundField) : Case where
  tag := bound.field.tag
  statements :=
    [.assign bound.field.name (.read bound.binding.read), .markPresent bound.field.tag]

/-- What is done with the field's tag in the presence bitmap. -/
def writeCase (bound : BoundField) : Case where
  tag := bound.field.tag
  statements := [.write bound.binding.write]

end BoundField

/-- The method that reads an object from the wire. -/
def decodeMethod (fields : List BoundField) : Method where
  result := none
  name := "decode"
  parameters := [⟨.named "Decoder", "decoder"⟩]
  body := .eachWireTag (fields.map BoundField.readCase)

/-- The method that writes an object to the wire. -/
def encodeMethod (fields : List BoundField) : Method where
  result := none
  name := "encode"
  parameters := [⟨.named "Encoder", "encoder"⟩]
  body := .eachPresentTag (fields.map BoundField.writeCase)

/-! ## The class -/

def structClass (name : String) (fields : List BoundField) : ClassDecl where
  name := name
  members := ⟨.named "Tags", presenceMember, true⟩ :: fields.map BoundField.member
  methods := fields.flatMap BoundField.accessors ++ [decodeMethod fields, encodeMethod fields]

end Output

/-- The class of a struct that is placed in `viewpoint`.  The first field that cannot be
    generated is reported. -/
def Scope.classOf (scope : Scope) (viewpoint : String) (struct : StructDecl) :
    Logged FieldError ClassDecl := do
  let fields ← Logged.forEach (scope.bindField viewpoint) struct.fields
  return structClass struct.name fields

end WireSchema
