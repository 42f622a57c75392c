import WireSchema.Schema.Kind

/-! # The schema model

A schema is a list of modules.  A module declares structs and enums, and a struct has fields
that may refer to declarations of any module.

* `Field`, `StructDecl`, `EnumDecl` and `Module` are the model, with the functions that build
  them up.
* `Declaration` is a struct or an enum; `Module.declarations` lists those of a module in the
  order in which they are generated, structs first.
-/

namespace WireSchema

/-! ## Parts of a field -/

/-- The comments of a declaration, without comment markers. -/
structure Comment where
  /-- The text before the declaration. -/
  leading : String
  /-- The text after it on the same line. -/
  trailing : String
  deriving DecidableEq

namespace Comment

def blank : Comment := ⟨"", ""⟩

/-- A comment that stands before a declaration. -/
def ofLeading (text : String) : Comment := ⟨text, ""⟩

/-- Whether there is no text at all. -/
def isEmpty (comment : Comment) : Bool :=
  comment.leading.isEmpty && comment.trailing.isEmpty

end Comment

/-- A reference to a declared struct or enum. -/
structure TypeRef where
  name : String
  /-- The module that declares the type, where it is known. -/
  home : Option String
  deriving DecidableEq

/-- The scale of a numeric field that is also seen as a fraction: the value of one raw unit. -/
structure FixedPoint where
  scale : Float
  deriving DecidableEq

namespace FixedPoint

/-- The factor that turns a fraction into raw units. -/
def reciprocal (fixed : FixedPoint) : Float :=
  1.0 / fixed.scale

/-- A scale is valid if it is positive and it and its reciprocal are finite. -/
def isValid (fixed : FixedPoint) : Bool :=
  0.0 < fixed.scale && fixed.scale.isFinite && fixed.reciprocal.isFinite

end FixedPoint

/-! ## Fields -/

/-- A field of a struct. -/
structure Field where
  name : String
  /-- The wire tag, which is also the field's place in the presence bitmap. -/
  tag : UInt16
  kind : Kind
  /-- Whether the field is a collection. -/
  repeated : Bool
  /-- The field of the referenced struct that keys the collection, if it is a map. -/
  mapKey : Option String
  fixedPoint : Option FixedPoint
  /-- The declaration that an enum or struct field refers to. -/
  target : Option TypeRef
  deriving DecidableEq

namespace Field

/-- A field that is neither a collection nor a reference. -/
def scalar (name : String) (tag : UInt16) (kind : Kind) : Field where
  name := name
  tag := tag
  kind := kind
  repeated := false
  mapKey := none
  fixedPoint := none
  target := none

def structRef (name : String) (tag : UInt16) (type : String) : Field :=
  { scalar name tag .struct with target := some ⟨type, none⟩ }

def enumRef (name : String) (tag : UInt16) (type : String) : Field :=
  { scalar name tag .enum with target := some ⟨type, none⟩ }

def asRepeated (field : Field) : Field :=
  { field with repeated := true }

/-- Makes a field a map keyed by a field of its elements. -/
def keyedBy (field : Field) (key : String) : Field :=
  { field with repeated := true, mapKey := some key }

def scaledBy (field : Field) (scale : Float) : Field :=
  { field with fixedPoint := some ⟨scale⟩ }

def referringTo (field : Field) (target : TypeRef) : Field :=
  { field with target := some target }

end Field

/-! ## Declarations -/

structure StructDecl where
  name : String
  fields : List Field
  comment : Comment
  deriving DecidableEq

namespace StructDecl

def empty (name : String) : StructDecl := ⟨name, [], .blank⟩

def addField (struct : StructDecl) (field : Field) : StructDecl :=
  { struct with fields := struct.fields ++ [field] }

def withComment (struct : StructDecl) (comment : Comment) : StructDecl :=
  { struct with comment := comment }

def field? (struct : StructDecl) (name : String) : Option Field :=
  struct.fields.find? (·.name == name)

end StructDecl

/-- An enum declaration.  The position of a member is its value on the wire. -/
structure EnumDecl where
  name : String
  members : List String
  comment : Comment
  deriving DecidableEq

namespace EnumDecl

def ofMembers (name : String) (members : List String) : EnumDecl := ⟨name, members, .blank⟩

def withComment (enum : EnumDecl) (comment : Comment) : EnumDecl :=
  { enum with comment := comment }

end EnumDecl

inductive Declaration where
  | struct (decl : StructDecl)
  | enum (decl : EnumDecl)
  deriving DecidableEq

namespace Declaration

def name : Declaration → String
  | struct decl => decl.name
  | enum decl => decl.name

def comment : Declaration → Comment
  | struct decl => decl.comment
  | enum decl => decl.comment

def struct? : Declaration → Option StructDecl
  | struct decl => some decl
  | enum _ => none

def enum? : Declaration → Option EnumDecl
  | struct _ => none
  | enum decl => some decl

end Declaration

/-! ## Modules -/

/-- One schema file. -/
structure Module where
  name : String
  /-- The namespace of every declaration that does not say otherwise. -/
  defaultNamespace : String
  structs : List StructDecl
  enums : List EnumDecl
  deriving DecidableEq

namespace Module

def empty (name defaultNamespace : String) : Module := ⟨name, defaultNamespace, [], []⟩

def addStruct (module : Module) (struct : StructDecl) : Module :=
  { module with structs := module.structs ++ [struct] }

def addEnum (module : Module) (enum : EnumDecl) : Module :=
  { module with enums := module.enums ++ [enum] }

def struct? (module : Module) (name : String) : Option StructDecl :=
  module.structs.find? (·.name == name)

def enum? (module : Module) (name : String) : Option EnumDecl :=
  module.enums.find? (·.name == name)

/-- Every declaration of the module, structs before enums, each in declaration order. -/
def declarations (module : Module) : List Declaration :=
  module.structs.map .struct ++ module.enums.map .enum

/-- The first declaration of the given name. -/
def declaration? (module : Module) (name : String) : Option Declaration :=
  match module.struct? name with
  | some struct => some (.struct struct)
  | none => (module.enum? name).map .enum

end Module

end WireSchema
