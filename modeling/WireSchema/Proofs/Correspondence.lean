import WireSchema.Proofs.Counterparts

/-! # Lists of modules that correspond

Two lists of modules correspond if they differ in the contents of structs alone, each of which is
related to that at its place in the other list.  Lookups in them lead to related declarations.

* `Module.Matches`, `Declared.Matches` — what is at one place in the two lists.
* `Registry.resolve_rel` — a reference leads to declarations that match.
* `Scope.sameName_of_matches` — a reference is written alike.
* `Scope.seesAlike_of_matches` — a field is bound alike, if its key is in the related structs.
-/

namespace WireSchema

/-! ## What matches -/

/-- Structs with related contents, of one name and with one comment. -/
structure StructDecl.Matches (r : StructDecl → StructDecl → Prop)
    (struct struct' : StructDecl) : Prop where
  name : struct'.name = struct.name
  comment : struct'.comment = struct.comment
  content : r struct struct'

inductive Declaration.Matches (r : StructDecl → StructDecl → Prop) :
    Declaration → Declaration → Prop where
  | struct {decl decl' : StructDecl} : decl.Matches r decl' →
      Matches r (.struct decl) (.struct decl')
  | enum {decl : EnumDecl} : Matches r (.enum decl) (.enum decl)

/-- Modules that differ in the contents of structs alone. -/
structure Module.Matches (r : StructDecl → StructDecl → Prop) (module module' : Module) :
    Prop where
  name : module'.name = module.name
  defaultNamespace : module'.defaultNamespace = module.defaultNamespace
  structs : List.Forall₂ (StructDecl.Matches r) module.structs module'.structs
  enums : module'.enums = module.enums

structure Declared.Matches (r : StructDecl → StructDecl → Prop) (declared declared' : Declared) :
    Prop where
  home : declared.home.Matches r declared'.home
  declaration : declared.declaration.Matches r declared'.declaration

variable {r : StructDecl → StructDecl → Prop}

namespace Declaration.Matches

variable {declaration declaration' : Declaration}

theorem name (related : declaration.Matches r declaration') :
    declaration'.name = declaration.name := by
  cases related with
  | struct content => exact content.name
  | enum => rfl

theorem comment (related : declaration.Matches r declaration') :
    declaration'.comment = declaration.comment := by
  cases related with
  | struct content => exact content.comment
  | enum => rfl

theorem struct? (related : declaration.Matches r declaration') :
    Option.Rel r declaration.struct? declaration'.struct? := by
  cases related with
  | struct content => exact .some content.content
  | enum => exact .none

end Declaration.Matches

theorem Module.Matches.declarations {module module' : Module} (home : module.Matches r module') :
    List.Forall₂ (Declaration.Matches r) module.declarations module'.declarations := by
  unfold Module.declarations
  rw [home.enums]
  apply List.rel_append
  · rw [List.forall₂_map_left_iff, List.forall₂_map_right_iff]
    exact home.structs.imp fun _ _ => .struct
  · rw [List.forall₂_map_left_iff, List.forall₂_map_right_iff]
    exact List.forall₂_same.mpr fun _ _ => .enum

theorem Module.Matches.declaration? {module module' : Module} (home : module.Matches r module')
    (name : String) :
    Option.Rel (Declaration.Matches r) (module.declaration? name) (module'.declaration? name) := by
  rw [← declarations_find?, ← declarations_find?]
  apply find?_rel home.declarations
  intro _ _ related
  rw [related.name]

/-! ## Lookups -/

variable {modules modules' : List Module}

theorem Declared.all_rel (pairs : List.Forall₂ (Module.Matches r) modules modules') :
    List.Forall₂ (Declared.Matches r) (all modules) (all modules') := by
  unfold all
  induction pairs with
  | nil => exact .nil
  | @cons module module' _ _ home _ inductionHypothesis =>
    simp only [List.flatMap_cons]
    apply List.rel_append _ inductionHypothesis
    rw [List.forall₂_map_left_iff, List.forall₂_map_right_iff]
    exact home.declarations.imp fun _ _ declaration => ⟨home, declaration⟩

namespace Registry

theorem declaredIn?_rel (pairs : List.Forall₂ (Module.Matches r) modules modules')
    (moduleName name : String) :
    Option.Rel (Declared.Matches r) ((ofModules modules).declaredIn? moduleName name)
      ((ofModules modules').declaredIn? moduleName name) := by
  unfold declaredIn?
  have homes : Option.Rel (Module.Matches r) (modules.find? (·.name == moduleName))
      (modules'.find? (·.name == moduleName)) := by
    apply find?_rel pairs
    intro _ _ home
    rw [home.name]
  apply option_rel_bind homes
  intro module module' home
  apply option_rel_bind (home.declaration? name)
  intro _ _ declaration
  exact .some ⟨home, declaration⟩

theorem get?_rel (pairs : List.Forall₂ (Module.Matches r) modules modules') (name : String) :
    Option.Rel (Declared.Matches r) ((ofModules modules).get? name)
      ((ofModules modules').get? name) := by
  rw [get?_ofModules, get?_ofModules]
  apply find?_rel (Declared.all_rel pairs)
  intro _ _ related
  simp only [Declared.name, related.declaration.name]

/-- A reference leads nowhere in both lists, or to declarations that match. -/
theorem resolve_rel (pairs : List.Forall₂ (Module.Matches r) modules modules')
    (owner : Option String) (ref : TypeRef) :
    Option.Rel (Declared.Matches r) ((ofModules modules).resolve owner ref)
      ((ofModules modules').resolve owner ref) := by
  have named (given : Option String) :
      Option.Rel (Declared.Matches r)
        (given.bind fun moduleName => (ofModules modules).declaredIn? moduleName ref.name)
        (given.bind fun moduleName => (ofModules modules').declaredIn? moduleName ref.name) := by
    cases given with
    | none => exact .none
    | some moduleName => exact declaredIn?_rel pairs moduleName ref.name
  -- both lists are asked for the pinned module, the own one and the index in one order
  exact option_rel_or (named ref.home) (option_rel_or (named owner) (get?_rel pairs ref.name))

end Registry

/-! ## Scopes -/

namespace Scope

variable {config : Config} {module module' : Module} {field : Field}

theorem placementOf_of_matches {declaration declaration' : Declaration}
    (home : module.Matches r module') (related : declaration.Matches r declaration')
    {scope other : Scope} (tag : other.namespaceTag = scope.namespaceTag) :
    other.placementOf module' declaration' = scope.placementOf module declaration := by
  unfold placementOf
  rw [tag, home.defaultNamespace, related.comment]

theorem resolve_of_matches (pairs : List.Forall₂ (Module.Matches r) modules modules')
    (home : module.Matches r module') (ref : TypeRef) :
    Option.Rel (Declared.Matches r) ((ofModule modules config module).resolve ref)
      ((ofModule modules' config module').resolve ref) := by
  simp only [ofModule, resolve, global, within, home.name]
  exact Registry.resolve_rel pairs _ ref

/-- A reference is written with one name in both lists. -/
theorem sameName_of_matches (pairs : List.Forall₂ (Module.Matches r) modules modules')
    (home : module.Matches r module') (ref : TypeRef) :
    (ofModule modules config module).SameName (ofModule modules' config module') ref := by
  apply option_rel_imp _ (resolve_of_matches pairs home ref)
  intro _ _ related
  exact ⟨related.declaration.name, placementOf_of_matches related.home related.declaration rfl⟩

theorem struct?_of_matches (pairs : List.Forall₂ (Module.Matches r) modules modules')
    (home : module.Matches r module') (ref : TypeRef) :
    Option.Rel r ((ofModule modules config module).struct? ref)
      ((ofModule modules' config module').struct? ref) := by
  apply option_rel_bind (resolve_of_matches pairs home ref)
  intro _ _ related
  exact related.declaration.struct?

/-- A field is bound alike in both lists, if the structs that it finds its key in have fields that
    are alike as keys. -/
theorem seesAlike_of_matches (pairs : List.Forall₂ (Module.Matches r) modules modules')
    (home : module.Matches r module')
    (keys : ∀ ref key, field.IsMap ref key →
      (ofModule modules config module).SameKey (ofModule modules' config module') ref key) :
    (ofModule modules config module).SeesAlike (ofModule modules' config module') field where
  name ref _ _ := sameName_of_matches pairs home ref
  key := keys
  keyName _ ref _ _ _ := sameName_of_matches pairs home ref

end Scope

end WireSchema
