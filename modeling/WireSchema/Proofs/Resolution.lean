import WireSchema.Scope

/-! # Where references lead

The index of a registry is built once, and lookups by module walk the modules again.  Both are
instances of one thing, the first match in a list of declarations:

* `declarations_find?` — the first declaration of a module is its first struct, else its first
  enum;
* `get?_ofModules` — the index holds the first declaration of all modules;
* `resolve_sound` — what a reference leads to is declared by the module it is reported for, and
  has the name that was asked for.
-/

namespace WireSchema

/-! ## One module -/

namespace Module

/-- A lookup in a module is a search through its declarations, structs first. -/
theorem declarations_find? (module : Module) (name : String) :
    module.declarations.find? (·.name == name) = module.declaration? name := by
  unfold declarations declaration? struct? enum?
  rw [List.find?_append, List.find?_map, List.find?_map]
  change ((module.structs.find? (·.name == name)).map Declaration.struct).or
    ((module.enums.find? (·.name == name)).map Declaration.enum) = _
  cases module.structs.find? (·.name == name) with
  | none => simp
  | some struct => simp

/-- What a lookup in a module finds is one of its declarations, of the name looked up. -/
theorem declaration?_sound {module : Module} {name : String} {declaration : Declaration}
    (found : module.declaration? name = some declaration) :
    declaration ∈ module.declarations ∧ declaration.name = name := by
  rw [← declarations_find?] at found
  exact ⟨List.mem_of_find?_eq_some found, by simpa using List.find?_some found⟩

end Module

/-! ## All modules -/

/-- The declarations of all modules, in the order in which they are indexed. -/
def Declared.all (modules : List Module) : List Declared :=
  modules.flatMap fun module => module.declarations.map (Declared.mk module)

theorem Declared.mem_all {modules : List Module} {declared : Declared} :
    declared ∈ Declared.all modules ↔
      declared.home ∈ modules ∧ declared.declaration ∈ declared.home.declarations := by
  unfold Declared.all
  simp only [List.mem_flatMap, List.mem_map]
  constructor
  · rintro ⟨module, listed, declaration, member, rfl⟩
    exact ⟨listed, member⟩
  · rintro ⟨listed, member⟩
    exact ⟨declared.home, listed, declared.declaration, member, rfl⟩

namespace TypeIndex

/-- Adding declarations one by one keeps the first of each name. -/
theorem lookup_foldl_add (index : TypeIndex) (declareds : List Declared) (name : String) :
    (declareds.foldl add index).lookup name =
      (index.lookup name).or (declareds.find? (·.name == name)) := by
  induction declareds generalizing index with
  | nil => simp
  | cons declared declareds inductionHypothesis =>
    rw [List.foldl_cons, inductionHypothesis, lookup_add, Option.or_assoc]
    congr 1
    by_cases same : declared.name = name
    · simp [same]
    · simp [same, Ne.symm same]

end TypeIndex

namespace Registry

theorem index_ofModules (modules : List Module) :
    (ofModules modules).index = (Declared.all modules).foldl TypeIndex.add [] := by
  unfold ofModules Declared.all TypeIndex.addModule
  simp only [List.foldl_flatMap, List.foldl_map]

/-- The index holds the first declaration of every name. -/
theorem get?_ofModules (modules : List Module) (name : String) :
    (ofModules modules).get? name = (Declared.all modules).find? (·.name == name) := by
  unfold get?
  rw [index_ofModules, TypeIndex.lookup_foldl_add]
  simp

/-! ## Soundness -/

theorem get?_sound {modules : List Module} {name : String} {declared : Declared}
    (found : (ofModules modules).get? name = some declared) :
    declared ∈ Declared.all modules ∧ declared.name = name := by
  rw [get?_ofModules] at found
  exact ⟨List.mem_of_find?_eq_some found, by simpa using List.find?_some found⟩

theorem declaredIn?_sound {modules : List Module} {moduleName name : String}
    {declared : Declared}
    (found : (ofModules modules).declaredIn? moduleName name = some declared) :
    declared ∈ Declared.all modules ∧ declared.name = name := by
  simp only [declaredIn?, Option.bind_eq_bind, Option.bind_eq_some_iff] at found
  obtain ⟨module, listed, declaration, member, equal⟩ := found
  cases equal
  obtain ⟨declares, named⟩ := Module.declaration?_sound member
  exact ⟨Declared.mem_all.mpr ⟨List.mem_of_find?_eq_some listed, declares⟩, named⟩

/-- What a reference leads to is declared by the module it is reported for, under the name that
    the reference asks for. -/
theorem resolve_sound {modules : List Module} {owner : Option String} {ref : TypeRef}
    {declared : Declared} (found : (ofModules modules).resolve owner ref = some declared) :
    declared ∈ Declared.all modules ∧ declared.name = ref.name := by
  simp only [resolve, Option.or_eq_some_iff, Option.bind_eq_some_iff] at found
  obtain ⟨home, _, pinned⟩ | ⟨_, ⟨owner, _, own⟩ | ⟨_, indexed⟩⟩ := found
  · exact declaredIn?_sound pinned
  · exact declaredIn?_sound own
  · exact get?_sound indexed

end Registry

end WireSchema
