import WireSchema.Proofs.Denotation
import WireSchema.Proofs.Rendering

/-! # Own declarations and those of other modules

A reference that names no module means the declaration of the module that it stands in.  That
module is looked for by its name, and so another module of the same name can stand in its way.

* `Module.Foremost` — no other module stands in the way of a module's own declaration.
* `resolve_own_iff` — exactly then a reference leads to the module's own declaration.
* `own_declaration_shadows_iff` — what references lead to and are written with, either way.
-/

namespace WireSchema

variable {modules front back : List Module} {module : Module} {config : Config} {ref : TypeRef}
  {name : String} {declaration : Declaration} {declared : Declared}

/-! ## First elements -/

theorem IsFirst.find?_eq {α : Type} {p : α → Prop} [DecidablePred p] {xs : List α} {x : α}
    (first : IsFirst p xs x) : xs.find? (fun y => decide (p y)) = some x := by
  rw [find?_eq_some_iff_isFirst]
  simpa only [decide_eq_true_eq] using first

/-- The first element with a property is any other one with it, or comes before that one. -/
theorem IsFirst.eq_or_mem {α : Type} {p : α → Prop} {front back : List α} {x y : α}
    (first : IsFirst p (front ++ y :: back) x) (holds : p y) : x = y ∨ x ∈ front := by
  classical
  have found := first.find?_eq
  have here : (y :: back).find? (fun z => decide (p z)) = some y :=
    List.find?_cons_of_pos (decide_eq_true holds)
  rw [List.find?_append, here] at found
  cases before : front.find? (fun y => decide (p y)) with
  | none =>
    rw [before, Option.none_or] at found
    exact .inl (Option.some.inj found).symm
  | some earlier =>
    rw [before, Option.some_or] at found
    cases found
    exact .inr (List.mem_of_find?_eq_some before)

/-! ## Own declarations -/

theorem Module.Declares.unique {other : Declaration} (declares : module.Declares name declaration)
    (declares' : module.Declares name other) : declaration = other :=
  Option.some.inj ((Module.declaration?_eq_some_iff.mpr declares).symm.trans
    (Module.declaration?_eq_some_iff.mpr declares'))

theorem Declared.eq_of_home (own : module.Declares name declaration)
    (declares : declared.home.Declares name declared.declaration) (home : declared.home = module) :
    declared = ⟨module, declaration⟩ := by
  obtain ⟨_, other⟩ := declared
  cases home
  rw [own.unique declares]

/-- No other module stands in the way of a module's own declaration of a name: the module is the
    first one that bears its own name, or else that one does not declare the name and the module
    is the first one that does. -/
inductive Module.Foremost (modules : List Module) (module : Module) (name : String) : Prop where
  | bearer : IsFirst (·.name = module.name) modules module → Foremost modules module name
  | declarer : (¬ ∃ other, DeclaredUnder modules (some module.name) name other) →
      IsFirst (fun other => ∃ declaration, other.Declares name declaration) modules module →
      Foremost modules module name

/-- A reference without a pin means what the first module of its own module's name declares, or
    else what is declared earliest. -/
theorem denotes_unpinned_iff (unpinned : ref.home = none) {owner : String} :
    Denotes modules (some owner) ref declared ↔
      DeclaredFirst (·.name = owner) modules ref.name declared ∨
        (¬ ∃ other, DeclaredUnder modules (some owner) ref.name other) ∧
          DeclaredEarliest modules ref.name declared := by
  have nowhere : ¬ ∃ other, DeclaredUnder modules ref.home ref.name other := by
    rintro ⟨_, pin, pinned, _⟩
    rw [unpinned] at pinned
    cases pinned
  constructor
  · intro denotes
    cases denotes with
    | pinned pinned => exact absurd ⟨_, pinned⟩ nowhere
    | own _ own =>
      obtain ⟨_, ⟨⟩, first⟩ := own
      exact .inl first
    | earliest _ foreign earliest => exact .inr ⟨foreign, earliest⟩
  · rintro (first | ⟨foreign, earliest⟩)
    · exact .own nowhere ⟨_, rfl, first⟩
    · exact .earliest nowhere foreign earliest

/-- A name leads to the own declaration of a module exactly if no other module stands in the
    way. -/
theorem resolve_own_iff (config : Config) (unpinned : ref.home = none)
    (own : module.Declares ref.name declaration) :
    (Scope.ofModule modules config module).resolve ref = some ⟨module, declaration⟩ ↔
      module.Foremost modules ref.name := by
  change (Registry.ofModules modules).resolve (some module.name) ref = _ ↔ _
  rw [Registry.resolve_eq_some_iff, denotes_unpinned_iff unpinned]
  constructor
  · rintro (first | ⟨foreign, earliest⟩)
    · exact .bearer first.home
    · exact .declarer foreign earliest.home
  · intro foremost
    cases foremost with
    | bearer first => exact .inl ⟨first, own⟩
    | declarer foreign first => exact .inr ⟨foreign, first, own⟩

/-- A name that a module declares leads to that module or to an earlier one. -/
theorem exists_resolve_of_own (config : Config) (unpinned : ref.home = none)
    (own : module.Declares ref.name declaration) :
    ∃ declared, (Scope.ofModule (front ++ module :: back) config module).resolve ref =
        some declared ∧ declared.home.Declares ref.name declared.declaration ∧
      (declared.home = module ∨ declared.home ∈ front) := by
  cases leads : (Scope.ofModule (front ++ module :: back) config module).resolve ref with
  | none =>
    obtain ⟨member, named⟩ :=
      Module.declaration?_sound (Module.declaration?_eq_some_iff.mpr own)
    have listed : module ∈ front ++ module :: back :=
      List.mem_append_right _ List.mem_cons_self
    exact absurd named (Registry.resolve_eq_none_iff.mp leads module listed _ member)
  | some declared =>
    have denotes := (denotes_unpinned_iff unpinned).mp (Registry.resolve_eq_some_iff.mp leads)
    obtain first | ⟨_, earliest⟩ := denotes
    · exact ⟨declared, rfl, first.declares, first.home.eq_or_mem rfl⟩
    · exact ⟨declared, rfl, earliest.declares, earliest.home.eq_or_mem ⟨declaration, own⟩⟩

/-- While a module is rendered, a name without a pin that the module declares leads to the
    module's own declaration exactly if no other module stands in the way, and to one of an
    earlier module else.  It is written with the namespace of the declaration that it leads to. -/
theorem own_declaration_shadows_iff (config : Config) (front back : List Module)
    (unpinned : ref.home = none) (own : module.Declares ref.name declaration) :
    ∃ declared, (Scope.ofModule (front ++ module :: back) config module).resolve ref =
        some declared ∧
      (declared = ⟨module, declaration⟩ ↔
        module.Foremost (front ++ module :: back) ref.name) ∧
      (declared ≠ ⟨module, declaration⟩ → declared.home ∈ front) ∧
      ∀ viewpoint, ((Scope.ofModule (front ++ module :: back) config module).className viewpoint
          ref : Logged FieldError String) =
        pure (Scope.qualify ((Scope.ofModule (front ++ module :: back) config module).placementOf
          declared.home declared.declaration) ref.name viewpoint) := by
  obtain ⟨declared, leads, declares, place⟩ := exists_resolve_of_own config unpinned own
  refine ⟨declared, leads, ?_, fun foreign => ?_, fun viewpoint => ?_⟩
  · rw [← resolve_own_iff config unpinned own, leads, Option.some.injEq]
  · exact place.resolve_left fun home => foreign (Declared.eq_of_home own declares home)
  · have named : declared.name = ref.name := (Registry.resolve_sound leads).2
    unfold Scope.className
    rw [leads, ← named]
    rfl

/-- The shop in a module that is named like the depot. -/
def Sample.annex : Module := { Sample.shop with name := Sample.depot.name }

open Sample in
/-- The crate of the annex is written as that of the depot, which bears the name of its
    module. -/
theorem own_declaration_shadows_annex :
    (⟨"Crate", none⟩ : TypeRef).home = none ∧
    annex.Declares "Crate" (.struct (.empty "Crate")) ∧
    ¬ annex.Foremost [depot, annex] "Crate" ∧
    ∃ declared, (Scope.ofModule [depot, annex] .default annex).resolve ⟨"Crate", none⟩ =
        some declared ∧
      declared ≠ ⟨annex, .struct (.empty "Crate")⟩ ∧ declared.home = depot ∧
      ((Scope.ofModule [depot, annex] .default annex).className "shop" ⟨"Crate", none⟩ :
        Logged FieldError String) = pure "depot.Crate" := by
  have own : annex.Declares "Crate" (.struct (.empty "Crate")) :=
    .struct ⟨rfl, [.empty "Shelf"], [], rfl, by decide⟩
  have unpinned : (⟨"Crate", none⟩ : TypeRef).home = none := rfl
  obtain ⟨declared, leads, foremost, earlier, written⟩ :=
    own_declaration_shadows_iff .default [depot] [] unpinned own
  have found : (Scope.ofModule [depot, annex] .default annex).resolve ⟨"Crate", none⟩ =
      some ⟨depot, .struct (.empty "Crate")⟩ := rfl
  have foreign : declared ≠ ⟨annex, .struct (.empty "Crate")⟩ := by
    rw [List.singleton_append, found, Option.some.injEq] at leads
    rw [← leads]
    decide
  have home : declared.home = depot := List.mem_singleton.mp (earlier foreign)
  refine ⟨unpinned, own, mt foremost.mpr foreign, declared, leads, foreign, home, ?_⟩
  rfl

end WireSchema
