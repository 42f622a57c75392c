import Mathlib.Data.List.Nodup
import WireSchema.Proofs.ClassNames
import WireSchema.Proofs.Denotation
import WireSchema.Proofs.Lookups

/-! # Lists of modules that render alike

What a module is rendered to depends on the other modules of the run only through its lookups.
Two changes of the list that leave the lookups alone:

* `renderModule_append` — modules are added at the end, whatever they declare.
* `renderModule_perm` — the modules change places, where every name is declared once.
-/

namespace WireSchema

namespace Registry

variable {modules extra permuted : List Module} {name : String} {owner : Option String}
  {ref : TypeRef}

/-! ## More modules -/

theorem declaredIn?_append {moduleName : String} (extra : List Module)
    (listed : ∃ home ∈ modules, home.name = moduleName) :
    (ofModules (modules ++ extra)).declaredIn? moduleName name =
      (ofModules modules).declaredIn? moduleName name := by
  have found : (modules.find? (·.name == moduleName)).isSome := by
    simpa only [List.find?_isSome, beq_iff_eq] using listed
  rw [declaredIn?_ofModules, declaredIn?_ofModules, List.find?_append, Option.or_of_isSome found]

theorem get?_append :
    (ofModules (modules ++ extra)).get? name =
      ((ofModules modules).get? name).or ((ofModules extra).get? name) := by
  simp only [get?_eq_findSome?, List.findSome?_append]

/-- A lookup that succeeds leads to the same where modules follow, if the modules that it asks
    by name are among the first ones. -/
theorem resolve_append (extra : List Module)
    (owners : ∀ given ∈ owner, ∃ home ∈ modules, home.name = given)
    (pins : ∀ pin ∈ ref.home, ∃ home ∈ modules, home.name = pin)
    (found : (ofModules modules).resolve owner ref ≠ none) :
    (ofModules (modules ++ extra)).resolve owner ref = (ofModules modules).resolve owner ref := by
  have named {given : Option String}
      (listed : ∀ moduleName ∈ given, ∃ home ∈ modules, home.name = moduleName) :
      (given.bind fun moduleName =>
          (ofModules (modules ++ extra)).declaredIn? moduleName ref.name) =
        given.bind fun moduleName => (ofModules modules).declaredIn? moduleName ref.name := by
    cases given with
    | none => rfl
    | some moduleName => exact declaredIn?_append extra (listed moduleName rfl)
  unfold resolve at found ⊢
  rw [named pins, named owners, get?_append]
  -- only where both named modules fail is the index asked, and then it has an answer already
  cases pinned : ref.home.bind fun pin => (ofModules modules).declaredIn? pin ref.name with
  | some declared => simp only [Option.some_or]
  | none =>
    cases own : owner.bind fun given => (ofModules modules).declaredIn? given ref.name with
    | some declared => simp only [Option.some_or]
    | none =>
      rw [pinned, own, Option.none_or, Option.none_or] at found
      rw [Option.or_of_isSome (Option.isSome_iff_ne_none.mpr found)]

/-! ## Other orders -/

theorem resolve_perm (unique : ((Declared.all modules).map Declared.name).Nodup)
    (perm : permuted.Perm modules) :
    (ofModules permuted).resolve owner ref = (ofModules modules).resolve owner ref := by
  cases found : (ofModules modules).resolve owner ref with
  | none =>
    rw [resolve_eq_none_iff] at found ⊢
    exact fun module listed => found module (perm.mem_iff.mp listed)
  | some declared =>
    obtain ⟨member, named⟩ := resolve_sound found
    cases found' : (ofModules permuted).resolve owner ref with
    | none =>
      obtain ⟨listed, declares⟩ := Declared.mem_all.mp member
      exact absurd named
        (resolve_eq_none_iff.mp found' _ (perm.mem_iff.mpr listed) _ declares)
    | some other =>
      obtain ⟨member', named'⟩ := resolve_sound found'
      have member' : other ∈ Declared.all modules := by
        rw [Declared.mem_all] at member' ⊢
        exact ⟨perm.mem_iff.mp member'.1, member'.2⟩
      rw [List.inj_on_of_nodup_map unique member' member (named'.trans named.symm)]

end Registry

variable {modules permuted : List Module} {config : Config} {module : Module}

/-- Modules may be added at the end: if all references of a module lead somewhere, and those that
    are pinned name modules of the list, the module is rendered to the same files as before. -/
theorem renderModule_append (extra : List Module) (listed : module ∈ modules)
    (found : ∀ ref ∈ (Scope.ofModule modules config module).moduleLookups module,
      (Scope.ofModule modules config module).resolve ref ≠ none)
    (pins : ∀ ref ∈ (Scope.ofModule modules config module).moduleLookups module,
      ∀ pin ∈ ref.home, ∃ home ∈ modules, home.name = pin) :
    renderModule (modules ++ extra) config module = renderModule modules config module := by
  refine renderModule_congr fun ref member => ?_
  refine Registry.resolve_append extra ?_ (pins ref member) (found ref member)
  rintro _ ⟨⟩
  exact ⟨module, listed, rfl⟩

open Sample in
/-- The bag and its items, followed by a module that repeats all of their names. -/
theorem renderModule_append_bag :
    bag ∈ [bag, item] ∧
    (∀ ref ∈ (Scope.ofModule [bag, item] .default bag).moduleLookups bag,
      (Scope.ofModule [bag, item] .default bag).resolve ref ≠ none) ∧
    (∀ ref ∈ (Scope.ofModule [bag, item] .default bag).moduleLookups bag,
      ∀ pin ∈ ref.home, ∃ home ∈ [bag, item], home.name = pin) ∧
    (∃ files, (renderModule [bag, item] .default bag).outcome = .ok files) ∧
    renderModule ([bag, item] ++ [{ item with name := bag.name }]) .default bag =
      renderModule [bag, item] .default bag := by
  have found : ∀ ref ∈ (Scope.ofModule [bag, item] .default bag).moduleLookups bag,
      (Scope.ofModule [bag, item] .default bag).resolve ref ≠ none := by decide
  have pins : ∀ ref ∈ (Scope.ofModule [bag, item] .default bag).moduleLookups bag,
      ∀ pin ∈ ref.home, ∃ home ∈ [bag, item], home.name = pin := by decide
  have listed : bag ∈ [bag, item] := List.mem_cons_self
  exact ⟨listed, found, pins, ⟨_, rfl⟩, renderModule_append _ listed found pins⟩

/-- Where every name is declared once in all modules, the order of the modules does not matter to
    what a module is rendered to, be it files or a failure. -/
theorem renderModule_perm (unique : ((Declared.all modules).map Declared.name).Nodup)
    (perm : permuted.Perm modules) (config : Config) (module : Module) :
    renderModule permuted config module = renderModule modules config module :=
  renderModule_congr fun _ _ => Registry.resolve_perm unique perm

open Sample in
/-- Two modules of one name, one of which declares what the other one refers to. -/
theorem renderModule_perm_bag :
    ((Declared.all [bag, { item with name := bag.name }]).map Declared.name).Nodup ∧
    [{ item with name := bag.name }, bag].Perm [bag, { item with name := bag.name }] ∧
    renderModule [{ item with name := bag.name }, bag] .default bag =
      renderModule [bag, { item with name := bag.name }] .default bag := by
  have unique : ((Declared.all [bag, { item with name := bag.name }]).map Declared.name).Nodup := by
    decide
  have perm : [{ item with name := bag.name }, bag].Perm [bag, { item with name := bag.name }] :=
    .swap _ _ _
  exact ⟨unique, perm, renderModule_perm unique perm .default bag⟩

end WireSchema
