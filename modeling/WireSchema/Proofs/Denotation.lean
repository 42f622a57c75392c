import WireSchema.Proofs.Resolution

/-! # What references denote

A reference denotes a declaration of the module that it is pinned to, else of the module that it
stands in, else the first declaration of all.  This module says so of plain lists of modules,
without the index and the searches of `Registry.resolve`:

* `IsFirst` — an element is the first of a list with a property.
* `Module.Declares` — a module declares a name, and where it does so twice, the first struct
  counts, or else the first enum.
* `Denotes` — a declaration is what a reference denotes.
* `resolve_eq_some_iff`, `resolve_eq_none_iff` — a lookup finds what the reference denotes, and
  it fails only for names that no module declares.
-/

namespace WireSchema

/-! ## First elements -/

/-- `x` is the first element of `xs` with the property `p`. -/
def IsFirst {α : Type} (p : α → Prop) (xs : List α) (x : α) : Prop :=
  p x ∧ ∃ before after, xs = before ++ x :: after ∧ ∀ y ∈ before, ¬ p y

theorem find?_eq_some_iff_isFirst {α : Type} {p : α → Bool} {xs : List α} {x : α} :
    xs.find? p = some x ↔ IsFirst (fun y => p y = true) xs x := by
  rw [List.find?_eq_some_iff_append]
  simp only [IsFirst, Bool.not_eq_true', Bool.not_eq_true]

/-! ## Declarations of modules -/

/-- A module declares a name.  The first struct of the name beats the first enum. -/
inductive Module.Declares (module : Module) (name : String) : Declaration → Prop where
  | struct {decl : StructDecl} : IsFirst (·.name = name) module.structs decl →
      module.Declares name (.struct decl)
  | enum {decl : EnumDecl} : (∀ struct ∈ module.structs, struct.name ≠ name) →
      IsFirst (·.name = name) module.enums decl → module.Declares name (.enum decl)

namespace Module

theorem struct?_eq_some_iff {module : Module} {name : String} {decl : StructDecl} :
    module.struct? name = some decl ↔ IsFirst (·.name = name) module.structs decl := by
  unfold struct?
  rw [find?_eq_some_iff_isFirst]
  simp only [beq_iff_eq]

theorem enum?_eq_some_iff {module : Module} {name : String} {decl : EnumDecl} :
    module.enum? name = some decl ↔ IsFirst (·.name = name) module.enums decl := by
  unfold enum?
  rw [find?_eq_some_iff_isFirst]
  simp only [beq_iff_eq]

theorem struct?_eq_none_iff {module : Module} {name : String} :
    module.struct? name = none ↔ ∀ struct ∈ module.structs, struct.name ≠ name := by
  unfold struct?
  simp only [List.find?_eq_none, beq_iff_eq, ne_eq]

theorem declaration?_eq_some_iff {module : Module} {name : String} {declaration : Declaration} :
    module.declaration? name = some declaration ↔ module.Declares name declaration := by
  unfold declaration?
  constructor
  · intro found
    cases structs : module.struct? name with
    | some decl =>
      rw [structs] at found
      cases found
      exact .struct (struct?_eq_some_iff.mp structs)
    | none =>
      rw [structs] at found
      obtain ⟨decl, enums, rfl⟩ := Option.map_eq_some_iff.mp found
      exact .enum (struct?_eq_none_iff.mp structs) (enum?_eq_some_iff.mp enums)
  · intro declares
    cases declares with
    | struct first => rw [struct?_eq_some_iff.mpr first]
    | enum absent first =>
      rw [struct?_eq_none_iff.mpr absent, enum?_eq_some_iff.mpr first]
      rfl

/-- What a module declares under a name, together with the module. -/
def declared? (module : Module) (name : String) : Option Declared :=
  (module.declaration? name).map (Declared.mk module)

theorem declared?_eq_some_iff {module : Module} {name : String} {declared : Declared} :
    module.declared? name = some declared ↔
      declared.home = module ∧ module.Declares name declared.declaration := by
  unfold declared?
  simp only [Option.map_eq_some_iff, declaration?_eq_some_iff]
  constructor
  · rintro ⟨_, declares, rfl⟩
    exact ⟨rfl, declares⟩
  · rintro ⟨rfl, declares⟩
    exact ⟨_, declares, rfl⟩

theorem declared?_eq_none_iff {module : Module} {name : String} :
    module.declared? name = none ↔ ¬ ∃ declaration, module.Declares name declaration := by
  unfold declared?
  rw [Option.map_eq_none_iff, Option.eq_none_iff_forall_ne_some]
  simp only [ne_eq, declaration?_eq_some_iff, not_exists]

end Module

/-! ## Denotations -/

/-- The home of `declared` is the first module with the property `p`, and declares `name`. -/
structure DeclaredFirst (p : Module → Prop) (modules : List Module) (name : String)
    (declared : Declared) : Prop where
  home : IsFirst p modules declared.home
  declares : declared.home.Declares name declared.declaration

/-- The first module of the given name, if one is given, declares `name`. -/
def DeclaredUnder (modules : List Module) (moduleName : Option String) (name : String)
    (declared : Declared) : Prop :=
  ∃ given, moduleName = some given ∧ DeclaredFirst (·.name = given) modules name declared

/-- No module that comes earlier declares the name. -/
abbrev DeclaredEarliest (modules : List Module) (name : String) (declared : Declared) : Prop :=
  DeclaredFirst (fun module => ∃ declaration, module.Declares name declaration) modules name
    declared

/-- What a reference denotes, as seen from the module `owner`. -/
inductive Denotes (modules : List Module) (owner : Option String) (ref : TypeRef)
    (declared : Declared) : Prop where
  | pinned : DeclaredUnder modules ref.home ref.name declared →
      Denotes modules owner ref declared
  | own : (¬ ∃ other, DeclaredUnder modules ref.home ref.name other) →
      DeclaredUnder modules owner ref.name declared → Denotes modules owner ref declared
  | earliest : (¬ ∃ other, DeclaredUnder modules ref.home ref.name other) →
      (¬ ∃ other, DeclaredUnder modules owner ref.name other) →
      DeclaredEarliest modules ref.name declared → Denotes modules owner ref declared

namespace Registry

variable {modules : List Module} {owner : Option String} {ref : TypeRef} {name : String}
  {declared : Declared}

/-! ## Single lookups -/

theorem declaredIn?_ofModules (modules : List Module) (moduleName name : String) :
    (ofModules modules).declaredIn? moduleName name =
      (modules.find? (·.name == moduleName)).bind (·.declared? name) := by
  simp only [declaredIn?, ofModules, Module.declared?, Option.bind_eq_bind, Option.map_eq_bind]
  rfl

/-- The index asks one module after the other. -/
theorem get?_eq_findSome? (modules : List Module) (name : String) :
    (ofModules modules).get? name = modules.findSome? (·.declared? name) := by
  rw [get?_ofModules, Declared.all, List.find?_flatMap]
  congr 1
  funext module
  rw [List.find?_map, Module.declared?, ← Module.declarations_find?]
  rfl

theorem declaredIn?_eq_some_iff {moduleName : String} :
    (ofModules modules).declaredIn? moduleName name = some declared ↔
      DeclaredFirst (·.name = moduleName) modules name declared := by
  rw [declaredIn?_ofModules, Option.bind_eq_some_iff]
  simp only [find?_eq_some_iff_isFirst, Module.declared?_eq_some_iff, beq_iff_eq]
  constructor
  · rintro ⟨_, first, rfl, declares⟩
    exact ⟨first, declares⟩
  · rintro ⟨first, declares⟩
    exact ⟨_, first, rfl, declares⟩

theorem bind_declaredIn?_eq_some_iff {moduleName : Option String} :
    (moduleName.bind fun given => (ofModules modules).declaredIn? given name) = some declared ↔
      DeclaredUnder modules moduleName name declared := by
  rw [Option.bind_eq_some_iff]
  simp only [declaredIn?_eq_some_iff, DeclaredUnder]

theorem bind_declaredIn?_eq_none_iff {moduleName : Option String} :
    (moduleName.bind fun given => (ofModules modules).declaredIn? given name) = none ↔
      ¬ ∃ other, DeclaredUnder modules moduleName name other := by
  rw [Option.eq_none_iff_forall_ne_some]
  simp only [ne_eq, bind_declaredIn?_eq_some_iff, not_exists]

theorem get?_eq_some_iff :
    (ofModules modules).get? name = some declared ↔ DeclaredEarliest modules name declared := by
  rw [get?_eq_findSome?, List.findSome?_eq_some_iff]
  simp only [Module.declared?_eq_some_iff, Module.declared?_eq_none_iff]
  constructor
  · rintro ⟨before, _, after, rfl, ⟨rfl, declares⟩, earlier⟩
    exact ⟨⟨⟨_, declares⟩, before, after, rfl, earlier⟩, declares⟩
  · rintro ⟨⟨_, before, after, split, earlier⟩, declares⟩
    exact ⟨before, declared.home, after, split, ⟨rfl, declares⟩, earlier⟩

/-! ## The chain of lookups -/

theorem resolve_eq_some_iff :
    (ofModules modules).resolve owner ref = some declared ↔
      Denotes modules owner ref declared := by
  simp only [resolve, Option.or_eq_some_iff, bind_declaredIn?_eq_some_iff,
    bind_declaredIn?_eq_none_iff, get?_eq_some_iff]
  constructor
  · rintro (pinned | ⟨unpinned, own | ⟨foreign, earliest⟩⟩)
    · exact .pinned pinned
    · exact .own unpinned own
    · exact .earliest unpinned foreign earliest
  · intro denotes
    cases denotes with
    | pinned pinned => exact .inl pinned
    | own unpinned own => exact .inr ⟨unpinned, .inl own⟩
    | earliest unpinned foreign earliest => exact .inr ⟨unpinned, .inr ⟨foreign, earliest⟩⟩

theorem resolve_eq_none_iff :
    (ofModules modules).resolve owner ref = none ↔
      ∀ module ∈ modules, ∀ declaration ∈ module.declarations, declaration.name ≠ ref.name := by
  constructor
  · intro failed
    simp only [resolve, Option.or_eq_none_iff, get?_ofModules, List.find?_eq_none] at failed
    intro module listed declaration declares named
    exact failed.2.2 ⟨module, declaration⟩ (Declared.mem_all.mpr ⟨listed, declares⟩)
      (beq_iff_eq.mpr named)
  · intro undeclared
    cases found : (ofModules modules).resolve owner ref with
    | none => rfl
    | some declared =>
      obtain ⟨member, named⟩ := resolve_sound found
      obtain ⟨listed, declares⟩ := Declared.mem_all.mp member
      exact absurd named (undeclared _ listed _ declares)

/-- References are looked up soundly, completely and in a fixed order: a lookup fails exactly for
    names that no module declares, what it finds has the name asked for and belongs to the module
    it is reported for, and it is the declaration that the reference denotes.  The earliest
    declaration of a name is found with its module as the pin, as the owner, or with neither, if
    that module is the first one of its own name. -/
theorem resolve_denotes (modules : List Module) (owner : Option String) (ref : TypeRef) :
    ((ofModules modules).resolve owner ref = none ↔
      ∀ module ∈ modules, ∀ declaration ∈ module.declarations, declaration.name ≠ ref.name) ∧
    (∀ declared, (ofModules modules).resolve owner ref = some declared →
      declared.home ∈ modules ∧ declared.declaration ∈ declared.home.declarations ∧
        declared.name = ref.name) ∧
    (∀ declared, (ofModules modules).resolve owner ref = some declared ↔
      Denotes modules owner ref declared) ∧
    ∀ declared, DeclaredEarliest modules ref.name declared →
      IsFirst (·.name = declared.home.name) modules declared.home →
      (ofModules modules).resolve owner ⟨ref.name, some declared.home.name⟩ = some declared ∧
      (ofModules modules).resolve (some declared.home.name) ⟨ref.name, none⟩ = some declared ∧
      (ofModules modules).resolve none ⟨ref.name, none⟩ = some declared := by
  refine ⟨resolve_eq_none_iff, fun declared found => ?_, fun declared => resolve_eq_some_iff,
    fun declared earliest bearer => ?_⟩
  · obtain ⟨member, named⟩ := resolve_sound found
    obtain ⟨listed, declares⟩ := Declared.mem_all.mp member
    exact ⟨listed, declares, named⟩
  · have under : DeclaredUnder modules (some declared.home.name) ref.name declared :=
      ⟨_, rfl, bearer, earliest.declares⟩
    have nowhere : ¬ ∃ other, DeclaredUnder modules none ref.name other := by
      rintro ⟨_, _, given, _⟩
      cases given
    simp only [resolve_eq_some_iff]
    exact ⟨.pinned under, .own nowhere under, .earliest nowhere nowhere earliest⟩

end Registry

namespace Sample

/-- A module that declares one name twice. -/
def depot : Module := ⟨"depot.sp", "depot", [.empty "Crate"], [.ofMembers "Crate" ["Small"]]⟩

def shop : Module := ⟨"shop.sp", "shop", [.empty "Shelf", .empty "Crate"], []⟩

end Sample

open Sample in
/-- A name with three declarations, looked up in the module of the first one. -/
theorem resolve_denotes_crate :
    DeclaredEarliest [depot, shop] "Crate" ⟨depot, .struct (.empty "Crate")⟩ ∧
    IsFirst (·.name = "depot.sp") [depot, shop] depot ∧
    (Registry.ofModules [depot, shop]).resolve (some "shop.sp") ⟨"Crate", some "depot.sp"⟩ =
      some ⟨depot, .struct (.empty "Crate")⟩ ∧
    (Registry.ofModules [depot, shop]).resolve (some "depot.sp") ⟨"Crate", none⟩ =
      some ⟨depot, .struct (.empty "Crate")⟩ ∧
    (Registry.ofModules [depot, shop]).resolve none ⟨"Crate", none⟩ =
      some ⟨depot, .struct (.empty "Crate")⟩ := by
  have declares : depot.Declares "Crate" (.struct (.empty "Crate")) :=
    .struct ⟨rfl, [], [], rfl, by simp⟩
  have earliest : DeclaredEarliest [depot, shop] "Crate" ⟨depot, .struct (.empty "Crate")⟩ :=
    ⟨⟨⟨_, declares⟩, [], [shop], rfl, by simp⟩, declares⟩
  have bearer : IsFirst (·.name = "depot.sp") [depot, shop] depot :=
    ⟨rfl, [], [shop], rfl, by simp⟩
  exact ⟨earliest, bearer, (Registry.resolve_denotes [depot, shop] (some "shop.sp")
    ⟨"Crate", none⟩).2.2.2 _ earliest bearer⟩

end WireSchema
