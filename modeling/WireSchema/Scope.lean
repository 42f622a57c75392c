import WireSchema.Log
import WireSchema.Registry
import WireSchema.Schema.Annotation

/-! # Names of referenced types

A reference is written with the bare name of its type where the type is placed in the same
namespace, and with the qualified name elsewhere.

* `Scope` is what references are looked up in.
* `Scope.className` is the name that a reference is written with.
* `Scope.struct?` is the struct behind a reference.
-/

namespace WireSchema

/-- What references are looked up in, and from where. -/
structure Scope where
  registry : Registry
  /-- The annotation that extends a namespace. -/
  namespaceTag : String
  /-- The module whose references are looked up, if any. -/
  owner : Option String

namespace Scope

def global (modules : List Module) (namespaceTag : String) : Scope :=
  ⟨.ofModules modules, namespaceTag, none⟩

def within (scope : Scope) (module : Module) : Scope :=
  { scope with owner := some module.name }

def resolve (scope : Scope) (ref : TypeRef) : Option Declared :=
  scope.registry.resolve scope.owner ref

/-- The namespace that a declaration of a module is placed in. -/
def placementOf (scope : Scope) (module : Module) (declaration : Declaration) : String :=
  placement scope.namespaceTag module.defaultNamespace declaration.comment

/-- The namespace that a registered type is placed in. -/
def placementOfDeclared (scope : Scope) (declared : Declared) : String :=
  scope.placementOf declared.home declared.declaration

/-- The name of a type that is placed in `placement`, as it is written in the namespace
    `viewpoint`. -/
def qualify (placement name viewpoint : String) : String :=
  if placement = viewpoint ∨ placement.isEmpty then name else placement ++ "." ++ name

/-- The name that a reference is written with in the namespace `viewpoint`.  A type that is
    declared nowhere keeps its bare name, and a warning says so. -/
def className {ε : Type} (scope : Scope) (viewpoint : String) (ref : TypeRef) :
    Logged ε String :=
  match scope.resolve ref with
  | none => do
    Logged.report (.undeclared ref.name)
    return ref.name
  | some declared =>
    return qualify (scope.placementOfDeclared declared) declared.name viewpoint

/-- The struct that a reference stands for, if it stands for a struct. -/
def struct? (scope : Scope) (ref : TypeRef) : Option StructDecl := do
  let declared ← scope.resolve ref
  declared.declaration.struct?

end Scope

end WireSchema
