import WireSchema.Proofs.ClassNames
import WireSchema.Proofs.Denotation

/-! # Distinct types have distinct names

Inside of its own namespace a type is written with its bare name, elsewhere with the namespace in
front.  Where declared names have no dots, no two types share a written name:

* `append_cons_inj_of_last`, `append_cons_inj_of_first` — a text is cut in one way at its last
  separator, and at its first one.
* `qualify_eq_iff` — bare and qualified names, in any combination, tell types apart.
* `className_eq_iff` — two references are written alike exactly if their types have one placement
  and one name.
-/

namespace WireSchema

/-! ## First and last separators -/

theorem eq_nil_of_last {α : Type} {separator : α} {more back back' : List α}
    (last : separator ∉ back) (same : separator :: back = more ++ separator :: back') :
    more = [] ∧ back = back' := by
  cases more with
  | nil => exact ⟨rfl, (List.cons.inj same).2⟩
  | cons c more =>
    apply absurd _ last
    rw [(List.cons.inj same).2]
    simp

theorem append_cons_inj_of_last {α : Type} {separator : α} {front front' back back' : List α}
    (last : separator ∉ back) (last' : separator ∉ back') :
    front ++ separator :: back = front' ++ separator :: back' ↔ front = front' ∧ back = back' := by
  constructor
  · intro same
    -- whatever one front has more than the other would be in the other back as well
    obtain ⟨more, split, rest⟩ | ⟨more, split, rest⟩ := List.append_eq_append_iff.mp same
    · obtain ⟨rfl, rfl⟩ := eq_nil_of_last last rest
      exact ⟨by simp [split], rfl⟩
    · obtain ⟨rfl, rfl⟩ := eq_nil_of_last last' rest
      exact ⟨by simp [split], rfl⟩
  · rintro ⟨rfl, rfl⟩
    rfl

theorem append_cons_inj_of_first {α : Type} {separator : α} {front front' back back' : List α}
    (first : separator ∉ front) (first' : separator ∉ front') :
    front ++ separator :: back = front' ++ separator :: back' ↔ front = front' ∧ back = back' := by
  rw [← List.reverse_inj]
  simp only [List.reverse_append, List.reverse_cons, List.append_assoc, List.singleton_append]
  rw [append_cons_inj_of_last (by simpa using first) (by simpa using first'), List.reverse_inj,
    List.reverse_inj, and_comm]

/-! ## Names of types -/

namespace Scope

variable {placement other name name' viewpoint : String}

/-- A name without dots is no qualified name. -/
theorem qualified_ne_simple (simple : '.' ∉ name.toList) : placement ++ "." ++ name' ≠ name := by
  intro same
  apply simple
  rw [← same]
  simp

theorem qualified_eq_iff (simple : '.' ∉ name.toList) (simple' : '.' ∉ name'.toList) :
    placement ++ "." ++ name = other ++ "." ++ name' ↔ placement = other ∧ name = name' := by
  have toList (front back : String) :
      (front ++ "." ++ back).toList = front.toList ++ '.' :: back.toList := by simp
  rw [← String.toList_inj, toList, toList, append_cons_inj_of_last simple simple',
    String.toList_inj, String.toList_inj]

theorem qualify_eq_iff (placed : placement ≠ "") (placed' : other ≠ "")
    (simple : '.' ∉ name.toList) (simple' : '.' ∉ name'.toList) :
    qualify placement name viewpoint = qualify other name' viewpoint ↔
      placement = other ∧ name = name' := by
  simp only [qualify_eq, placed, placed', or_false]
  by_cases here : placement = viewpoint
  · by_cases here' : other = viewpoint
    · simp only [here, here', if_true, true_and]
    · simp only [here, here', if_true, if_false, Ne.symm here', false_and, iff_false]
      exact fun same => qualified_ne_simple simple same.symm
  · by_cases here' : other = viewpoint
    · simp only [here, here', if_true, if_false, false_and, iff_false]
      exact qualified_ne_simple simple'
    · simp only [here, here', if_false]
      exact qualified_eq_iff simple simple'

/-- Two references that lead to types with namespaces, and with names without dots, are written
    alike in some namespace exactly if the types have one placement and one name. -/
theorem className_eq_iff {ε : Type} {scope : Scope} {ref ref' : TypeRef}
    {declared declared' : Declared} (viewpoint : String)
    (leads : scope.resolve ref = some declared) (leads' : scope.resolve ref' = some declared')
    (placed : scope.placementOfDeclared declared ≠ "")
    (placed' : scope.placementOfDeclared declared' ≠ "")
    (simple : '.' ∉ declared.name.toList) (simple' : '.' ∉ declared'.name.toList) :
    (scope.className viewpoint ref : Logged ε String).outcome =
        (scope.className viewpoint ref').outcome ↔
      scope.placementOfDeclared declared = scope.placementOfDeclared declared' ∧
        declared.name = declared'.name := by
  rw [className_outcome, className_outcome, nameOf_of_resolve leads, nameOf_of_resolve leads',
    Except.ok.injEq]
  exact qualify_eq_iff placed placed' simple simple'

open Sample in
/-- Two crates of one name, one of which is written without its namespace. -/
theorem className_eq_iff_crate :
    (global [depot, shop] "package").resolve ⟨"Crate", some "depot.sp"⟩ =
        some ⟨depot, .struct (.empty "Crate")⟩ ∧
    (global [depot, shop] "package").resolve ⟨"Crate", some "shop.sp"⟩ =
        some ⟨shop, .struct (.empty "Crate")⟩ ∧
    '.' ∉ "Crate".toList ∧
    (global [depot, shop] "package").className "depot" ⟨"Crate", some "depot.sp"⟩ =
        (pure "Crate" : Logged FieldError String) ∧
    ((global [depot, shop] "package").className "depot" ⟨"Crate", some "depot.sp"⟩ :
        Logged FieldError String).outcome ≠
      ((global [depot, shop] "package").className "depot" ⟨"Crate", some "shop.sp"⟩).outcome := by
  have own : (global [depot, shop] "package").resolve ⟨"Crate", some "depot.sp"⟩ =
      some ⟨depot, .struct (.empty "Crate")⟩ := by decide
  have foreign : (global [depot, shop] "package").resolve ⟨"Crate", some "shop.sp"⟩ =
      some ⟨shop, .struct (.empty "Crate")⟩ := by decide
  have simple : '.' ∉ "Crate".toList := by decide
  refine ⟨own, foreign, simple, rfl, fun same => ?_⟩
  have placed : (global [depot, shop] "package").placementOfDeclared
      ⟨depot, .struct (.empty "Crate")⟩ = "depot" := rfl
  have placed' : (global [depot, shop] "package").placementOfDeclared
      ⟨shop, .struct (.empty "Crate")⟩ = "shop" := rfl
  have alike := (className_eq_iff "depot" own foreign (by rw [placed]; decide)
    (by rw [placed']; decide) simple simple).mp same
  rw [placed, placed'] at alike
  exact absurd alike.1 (by decide)

end Scope

end WireSchema
