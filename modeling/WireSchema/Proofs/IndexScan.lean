import WireSchema.Proofs.Denotation
import Mathlib.Data.Set.Card

/-! # The index as a scan

The index of a registry is filled declaration by declaration, and a name that is taken keeps the
declaration that it has.  A plain scan of the modules needs no index, and says the same.

* `Declared.scan` — every declaration, module by module, structs before enums.
* `TypeIndex.Indexes` — what holds of the index after a part of the scan; `Indexes.add` is one step
  of it, and `Indexes.addAll` the rest.
* `index_eq_scan` — lookups in the index, and its size, as those of the scan.
-/

namespace WireSchema

/-! ## The scan -/

/-- Every declaration of the modules, with its module: the modules in their order, and of each the
    structs and then the enums, in the order in which they are declared. -/
def Declared.scan (modules : List Module) : List Declared :=
  modules.flatMap fun module =>
    module.structs.map (fun struct => ⟨module, .struct struct⟩) ++
      module.enums.map (fun enum => ⟨module, .enum enum⟩)

/-- A struct or an enum of the module has the name. -/
def Module.Names (module : Module) (name : String) : Prop :=
  (∃ struct ∈ module.structs, struct.name = name) ∨ ∃ enum ∈ module.enums, enum.name = name

namespace Declared

variable {modules : List Module}

theorem all_eq_scan : all modules = scan modules := by
  unfold all scan Module.declarations
  simp only [List.map_append, List.map_map, Function.comp_def]

theorem exists_mem_scan {name : String} :
    (∃ declared ∈ scan modules, declared.name = name) ↔ ∃ module ∈ modules, module.Names name := by
  constructor
  · rintro ⟨declared, member, rfl⟩
    obtain ⟨module, listed, member⟩ := List.mem_flatMap.mp member
    refine ⟨module, listed, ?_⟩
    rcases List.mem_append.mp member with member | member
    · obtain ⟨struct, declares, rfl⟩ := List.mem_map.mp member
      exact .inl ⟨struct, declares, rfl⟩
    · obtain ⟨enum, declares, rfl⟩ := List.mem_map.mp member
      exact .inr ⟨enum, declares, rfl⟩
  · rintro ⟨module, listed, ⟨struct, declares, rfl⟩ | ⟨enum, declares, rfl⟩⟩
    · exact ⟨⟨module, .struct struct⟩, List.mem_flatMap.mpr ⟨module, listed,
        List.mem_append_left _ (List.mem_map_of_mem declares)⟩, rfl⟩
    · exact ⟨⟨module, .enum enum⟩, List.mem_flatMap.mpr ⟨module, listed,
        List.mem_append_right _ (List.mem_map_of_mem declares)⟩, rfl⟩

end Declared

/-! ## Filling the index -/

namespace TypeIndex

/-- The index has one entry for every name that has been scanned. -/
structure Indexes (index : TypeIndex) (scanned : List Declared) : Prop where
  distinct : (index.map Prod.fst).Nodup
  names : ∀ name, name ∈ index.map Prod.fst ↔ ∃ declared ∈ scanned, declared.name = name

variable {index : TypeIndex} {scanned : List Declared}

theorem isSome_lookup_iff {name : String} :
    (index.lookup name).isSome ↔ name ∈ index.map Prod.fst := by
  simp [Option.isSome_iff_ne_none, List.lookup_eq_none_iff]

theorem Indexes.add (indexes : index.Indexes scanned) (declared : Declared) :
    (index.add declared).Indexes (scanned ++ [declared]) := by
  unfold TypeIndex.add
  split
  · next taken =>
    have known := isSome_lookup_iff.mp taken
    refine ⟨indexes.distinct, fun name => ?_⟩
    -- the name was there before, so the scan has no new one
    constructor
    · intro member
      obtain ⟨earlier, listed, named⟩ := (indexes.names name).mp member
      exact ⟨earlier, List.mem_append_left _ listed, named⟩
    · rintro ⟨other, listed, rfl⟩
      rcases List.mem_append.mp listed with listed | last
      · exact (indexes.names _).mpr ⟨other, listed, rfl⟩
      · rw [List.mem_singleton.mp last]
        exact known
  · next free =>
    have fresh : declared.name ∉ index.map Prod.fst := fun member =>
      free (isSome_lookup_iff.mpr member)
    refine ⟨?_, fun name => ?_⟩
    · rw [List.map_append]
      exact indexes.distinct.append (List.nodup_singleton _) (by simpa using fresh)
    · rw [List.map_append, List.mem_append, indexes.names name]
      simp only [List.map_cons, List.map_nil, List.mem_append, List.mem_singleton, or_and_right,
        exists_or, exists_eq_left]
      exact or_congr_right eq_comm

theorem Indexes.addAll (indexes : index.Indexes scanned) (declareds : List Declared) :
    (declareds.foldl TypeIndex.add index).Indexes (scanned ++ declareds) := by
  induction declareds generalizing index scanned with
  | nil => simpa using indexes
  | cons declared declareds inductionHypothesis =>
    have rest := inductionHypothesis (indexes.add declared)
    rwa [List.append_assoc, List.singleton_append] at rest

theorem indexes_nil : Indexes [] [] :=
  ⟨List.nodup_nil, by simp⟩

end TypeIndex

namespace Registry

variable {modules : List Module}

theorem indexes_ofModules : (ofModules modules).index.Indexes (Declared.scan modules) := by
  rw [index_ofModules, Declared.all_eq_scan]
  exact TypeIndex.indexes_nil.addAll (Declared.scan modules)

theorem get?_eq_some_iff_isFirst {name : String} {declared : Declared} :
    (ofModules modules).get? name = some declared ↔
      IsFirst (·.name = name) (Declared.scan modules) declared := by
  rw [get?_ofModules, Declared.all_eq_scan, find?_eq_some_iff_isFirst]
  simp only [beq_iff_eq]

theorem get?_eq_none_iff {name : String} :
    (ofModules modules).get? name = none ↔ ∀ module ∈ modules, ¬ module.Names name := by
  have named : (∃ declared ∈ Declared.scan modules, declared.name = name) ↔
      ∃ module ∈ modules, module.Names name := Declared.exists_mem_scan
  rw [get?_ofModules, Declared.all_eq_scan, List.find?_eq_none]
  simpa only [beq_iff_eq, not_exists, not_and] using named.not

theorem size_eq_ncard :
    (ofModules modules).size = {name | ∃ module ∈ modules, module.Names name}.ncard := by
  have indexes : (ofModules modules).index.Indexes (Declared.scan modules) := indexes_ofModules
  have names : {name | ∃ module ∈ modules, module.Names name} =
      ((ofModules modules).index.map Prod.fst).toFinset := by
    ext name
    rw [Set.mem_ofPred_eq, ← Declared.exists_mem_scan, ← indexes.names name, Finset.mem_coe,
      List.mem_toFinset]
  rw [names, Set.ncard_coe_finset, List.toFinset_card_of_nodup indexes.distinct, List.length_map]
  rfl

theorem isEmpty_iff :
    (ofModules modules).isEmpty = true ↔
      ∀ module ∈ modules, module.structs = [] ∧ module.enums = [] := by
  have unnamed : (ofModules modules).isEmpty = true ↔
      ∀ name, ¬ ∃ declared ∈ Declared.scan modules, declared.name = name := by
    unfold isEmpty
    simp only [← indexes_ofModules.names, List.isEmpty_iff, List.map_eq_nil_iff,
      ← List.eq_nil_iff_forall_not_mem]
  rw [unnamed]
  constructor
  · intro nothing module listed
    constructor
    · refine List.eq_nil_iff_forall_not_mem.mpr fun struct declares => ?_
      exact nothing _ (Declared.exists_mem_scan.mpr ⟨module, listed, .inl ⟨struct, declares, rfl⟩⟩)
    · refine List.eq_nil_iff_forall_not_mem.mpr fun enum declares => ?_
      exact nothing _ (Declared.exists_mem_scan.mpr ⟨module, listed, .inr ⟨enum, declares, rfl⟩⟩)
  · intro bare name declared
    obtain ⟨module, listed, names⟩ := Declared.exists_mem_scan.mp declared
    simp [Module.Names, bare module listed] at names

/-- The index is a plain scan of the modules: it holds the first declaration of every name that is
    declared, and nothing under any other name.  It has as many entries as there are names, and none
    exactly if no module declares anything. -/
theorem index_eq_scan (modules : List Module) :
    (∀ name declared, (ofModules modules).get? name = some declared ↔
      IsFirst (·.name = name) (Declared.scan modules) declared) ∧
    (∀ name, (ofModules modules).get? name = none ↔ ∀ module ∈ modules, ¬ module.Names name) ∧
    (ofModules modules).size = {name | ∃ module ∈ modules, module.Names name}.ncard ∧
    ((ofModules modules).isEmpty = true ↔
      ∀ module ∈ modules, module.structs = [] ∧ module.enums = []) :=
  ⟨fun _ _ => get?_eq_some_iff_isFirst, fun _ => get?_eq_none_iff, size_eq_ncard, isEmpty_iff⟩

open Sample in
/-- A name that is declared three times is one entry. -/
example : (ofModules [depot, shop]).size = 2 := by decide

end Registry

end WireSchema
