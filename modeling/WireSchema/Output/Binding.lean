import WireSchema.Output.FieldError
import WireSchema.Output.JavaType
import WireSchema.Output.WireCall
import WireSchema.Scope

/-! # Bindings of fields

A field of a struct is generated as a member of a type, an expression that reads it from the
wire, and a call that writes it.

* `Binding` holds the three of them.
* `Scope.bind` finds the binding of a field, with the names of referenced types as they are
  written in the namespace of the struct.
* Collections of structs with a key become maps; `Scope.mapKeyField` finds the key.
-/

namespace WireSchema

open Output (JavaType ReadCall WriteCall WriteMethod Operand getterName)

/-- What a field is generated as. -/
structure Output.Binding where
  /-- The type of the member. -/
  type : JavaType
  read : ReadCall
  write : WriteCall
  deriving DecidableEq

namespace Output.Binding

/-- A binding of a field whose member is written by the given method. -/
def of (field : Field) (type : JavaType) (read : ReadCall) (method : WriteMethod)
    (operand : Operand) : Binding :=
  ⟨type, read, ⟨method, field.tag, field.name, operand⟩⟩

end Output.Binding

namespace Scope

/-! ## References -/

/-- The name of the type that a field refers to, as it is written in `viewpoint`. -/
def referencedClass (scope : Scope) (viewpoint : String) (field : Field) :
    Logged FieldError String :=
  match field.target with
  | none => .fail (.missingReference field.name field.kind)
  | some ref => scope.className viewpoint ref

/-- The type of a field that is no collection. -/
def singleType (scope : Scope) (viewpoint : String) (field : Field) :
    Logged FieldError JavaType :=
  match field.kind with
  | .bool => return .boolean
  | .integer | .int32 => return .int
  | .int64 | .uint32 | .uint64 | .float32 | .float64 => return .long
  | .string => return .text
  | .bytes => return .blob
  | .enum | .struct => do
    let name ← scope.referencedClass viewpoint field
    return .named name

/-! ## Map keys -/

/-- The field of the referenced struct that keys a map.  A key is no collection itself. -/
def mapKeyField (scope : Scope) (field : Field) (key : String) : Except FieldError Field :=
  match field.target with
  | none => .error (.missingReference field.name field.kind)
  | some ref =>
    match scope.struct? ref with
    | none => .error (.unknownType ref.name field.name)
    | some struct =>
      match struct.field? key with
      | none => .error (.unknownMapKey key ref.name field.name)
      | some keyField =>
        if keyField.repeated || keyField.mapKey.isSome then
          .error (.invalidMapKey key ref.name field.name)
        else .ok keyField

/-! ## Bindings -/

/-- The binding of a field that refers to a struct. -/
def bindStruct (scope : Scope) (viewpoint : String) (field : Field) :
    Logged FieldError Output.Binding := do
  let name ← scope.referencedClass viewpoint field
  if !field.repeated then
    return .of field (.named name) (.object name) .object .itself
  match field.mapKey with
  | none => return .of field (.list (.named name)) (.objects name) .objects .itself
  | some key =>
    -- The key's type is written as it is seen from the struct that holds the map.
    let keyField ← .ofExcept (scope.mapKeyField field key)
    let keyType ← scope.singleType viewpoint keyField
    return .of field (.map keyType (.named name))
      (.objectMap name (getterName keyField.name)) .objects .values

/-- The binding of a field that refers to an enum. -/
def bindEnum (scope : Scope) (viewpoint : String) (field : Field) :
    Logged FieldError Output.Binding := do
  let name ← scope.referencedClass viewpoint field
  if field.repeated then
    return .of field (.list (.named name)) (.enumMembers name) .numbers (.ordinals name)
  else
    return .of field (.named name) (.enumMember name field.tag) .number .ordinal

/-- The binding of a field, with the names of types as they are written in `viewpoint`. -/
def bind (scope : Scope) (viewpoint : String) (field : Field) :
    Logged FieldError Output.Binding :=
  match field.kind with
  | .bool =>
    if field.repeated then return .of field (.array .boolean) .flags .flags .itself
    else return .of field .boolean (.flag field.tag) .number .flag
  | .integer | .int32 =>
    if field.repeated then return .of field (.array .int) .narrowNumbers .numbers .itself
    else return .of field .int (.narrowNumber field.tag) .number .itself
  | .int64 | .uint32 | .uint64 | .float32 | .float64 =>
    if field.repeated then return .of field (.array .long) .numbers .numbers .itself
    else return .of field .long (.number field.tag) .number .itself
  | .string =>
    if field.repeated then return .of field (.array .text) .texts .texts .itself
    else return .of field .text .text .text .itself
  | .bytes => return .of field .blob .blob .blob .itself
  | .enum => scope.bindEnum viewpoint field
  | .struct => scope.bindStruct viewpoint field

end Scope

end WireSchema
