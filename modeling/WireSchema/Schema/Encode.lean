import WireSchema.Json.Basic
import WireSchema.Schema.Basic

/-! # Modules as JSON trees

A module is handed on as a JSON tree in which every record is an object with all its members,
in declaration order: nothing is left out because it has its default, and what is absent is
`null`.

* `Module.toJson` is the tree of a module, and `Module.toDocument` the one of its document.
* The trees of the parts of a module can be made on their own as well.
-/

namespace WireSchema

/-- The tree of a kind: its keyword. -/
def Kind.toJson (kind : Kind) : Json := .ofString kind.keyword

def Comment.toJson (comment : Comment) : Json :=
  .ofMembers [("leading", .ofString comment.leading), ("trailing", .ofString comment.trailing)]

def TypeRef.toJson (ref : TypeRef) : Json :=
  .ofMembers [("name", .ofString ref.name), ("module", .ofOption .ofString ref.home)]

def FixedPoint.toJson (fixed : FixedPoint) : Json :=
  .ofMembers [("scale", .ofFloat fixed.scale)]

def Field.toJson (field : Field) : Json :=
  .ofMembers
    [("name", .ofString field.name),
     ("tag", .ofNat field.tag.toNat),
     ("kind", field.kind.toJson),
     ("repeated", .bool field.repeated),
     ("map_key", .ofOption .ofString field.mapKey),
     ("fixed_point", .ofOption FixedPoint.toJson field.fixedPoint),
     ("complex", .ofOption TypeRef.toJson field.target)]

def StructDecl.toJson (struct : StructDecl) : Json :=
  .ofMembers
    [("name", .ofString struct.name),
     ("fields", .ofList (struct.fields.map Field.toJson)),
     ("comment", struct.comment.toJson)]

def EnumDecl.toJson (enum : EnumDecl) : Json :=
  .ofMembers
    [("name", .ofString enum.name),
     ("members", .ofList (enum.members.map Json.ofString)),
     ("comment", enum.comment.toJson)]

def Module.toJson (module : Module) : Json :=
  .ofMembers
    [("name", .ofString module.name),
     ("namespace", .ofString module.defaultNamespace),
     ("structs", .ofList (module.structs.map StructDecl.toJson)),
     ("enums", .ofList (module.enums.map EnumDecl.toJson))]

/-- The tree of the document that a module is handed on as. -/
def Module.toDocument (module : Module) : Json := module.toJson.written

end WireSchema
