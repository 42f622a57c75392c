import WireSchema.Schema.Basic

/-! # The registry of declared types

References are looked up among the declarations of all modules of a run.

* `Registry.ofModules` indexes the declarations by name.  Where a name is declared more than
  once, the index holds the first declaration.
* `Registry.resolve` looks a reference up: in the module it names, then in the module it
  stands in, then in the index.
-/

namespace WireSchema

/-- A declaration together with the module that it stands in. -/
structure Declared where
  home : Module
  declaration : Declaration
  deriving DecidableEq

namespace Declared

def name (declared : Declared) : String := declared.declaration.name

end Declared

/-! ## The index -/

/-- Declarations by name.  Every name occurs once. -/
abbrev TypeIndex := List (String × Declared)

namespace TypeIndex

/-- Adds a declaration unless its name is taken. -/
def add (index : TypeIndex) (declared : Declared) : TypeIndex :=
  if (index.lookup declared.name).isSome then index
  else index ++ [(declared.name, declared)]

/-- An added declaration is found under its name, unless an earlier one is. -/
theorem lookup_add (index : TypeIndex) (declared : Declared) (name : String) :
    (index.add declared).lookup name =
      (index.lookup name).or (if name = declared.name then some declared else none) := by
  unfold add
  split
  · rename_i taken
    by_cases h : name = declared.name
    · subst h
      cases found : List.lookup declared.name index <;> simp_all
    · simp [h]
  · rw [List.lookup_append]
    congr 1
    by_cases h : name = declared.name
    · simp [h]
    · have apart : (name == declared.name) = false := by simpa using h
      simp [h, List.lookup_cons, apart]

/-- Adds the declarations of a module, structs first. -/
def addModule (index : TypeIndex) (module : Module) : TypeIndex :=
  module.declarations.foldl (fun index decl => index.add ⟨module, decl⟩) index

end TypeIndex

/-- The modules of a run, with their declarations indexed by name. -/
structure Registry where
  modules : List Module
  index : TypeIndex

namespace Registry

/-- Indexes the declarations of modules, in their order. -/
def ofModules (modules : List Module) : Registry where
  modules := modules
  index := modules.foldl TypeIndex.addModule []

def size (registry : Registry) : Nat := registry.index.length

def isEmpty (registry : Registry) : Bool := registry.index.isEmpty

/-! ## Lookups -/

/-- The first declaration of a name. -/
def get? (registry : Registry) (name : String) : Option Declared :=
  registry.index.lookup name

/-- The declaration of a name in the first module of the given name. -/
def declaredIn? (registry : Registry) (moduleName name : String) : Option Declared := do
  let module ← registry.modules.find? (·.name == moduleName)
  let declaration ← module.declaration? name
  return ⟨module, declaration⟩

/-- The declaration that a reference stands for, as seen from the module `owner`. -/
def resolve (registry : Registry) (owner : Option String) (ref : TypeRef) : Option Declared :=
  (ref.home.bind fun home => registry.declaredIn? home ref.name).or
    ((owner.bind fun owner => registry.declaredIn? owner ref.name).or
      (registry.get? ref.name))

end Registry

end WireSchema
