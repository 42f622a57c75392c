import Mathlib.Data.List.Forall2

/-! # Related lists and options

Two lists are related if their elements are, place by place, and two options if both are empty or
their values are related.  What is found in related lists is related.

* `exists_getElem?_of_forall₂` — what stands at one place.
* `find?_rel` — what is found first.
* `map_eq_of_forall₂` — what does not tell related elements apart.
* `option_rel_bind`, `option_rel_or` — options that are put together.
-/

namespace WireSchema

variable {α β γ δ : Type} {r : α → β → Prop} {s : γ → δ → Prop}

/-! ## Options -/

theorem option_rel_refl {r : α → α → Prop} (refl : ∀ a, r a a) (x : Option α) :
    Option.Rel r x x := by
  cases x with
  | none => exact .none
  | some a => exact .some (refl a)

theorem option_rel_trans {r : α → α → Prop} {x y z : Option α}
    (trans : ∀ a b c, r a b → r b c → r a c) (first : Option.Rel r x y)
    (second : Option.Rel r y z) : Option.Rel r x z := by
  cases first with
  | none => exact second
  | some pair =>
    cases second with
    | some pair' => exact .some (trans _ _ _ pair pair')

theorem option_rel_imp {r' : α → β → Prop} {x : Option α} {y : Option β}
    (weaker : ∀ a b, r a b → r' a b) (related : Option.Rel r x y) : Option.Rel r' x y := by
  cases related with
  | none => exact .none
  | some pair => exact .some (weaker _ _ pair)

theorem option_rel_bind {x : Option α} {y : Option β} {f : α → Option γ} {g : β → Option δ}
    (related : Option.Rel r x y) (next : ∀ a b, r a b → Option.Rel s (f a) (g b)) :
    Option.Rel s (x.bind f) (y.bind g) := by
  cases related with
  | none => exact .none
  | some pair => exact next _ _ pair

theorem option_rel_or {x x' : Option α} {y y' : Option β} (first : Option.Rel r x y)
    (second : Option.Rel r x' y') : Option.Rel r (x.or x') (y.or y') := by
  cases first with
  | none => exact second
  | some pair => exact .some pair

/-! ## Lists -/

theorem exists_getElem?_of_forall₂ {as : List α} {bs : List β} (pairs : List.Forall₂ r as bs)
    {position : Nat} {b : β} (there : bs[position]? = some b) :
    ∃ a, as[position]? = some a ∧ r a b := by
  obtain ⟨sameLength, related⟩ := List.forall₂_iff_get.mp pairs
  obtain ⟨inside, rfl⟩ := List.getElem?_eq_some_iff.mp there
  have listed : position < as.length := sameLength ▸ inside
  exact ⟨as[position], List.getElem?_eq_getElem listed, related position listed inside⟩

theorem find?_rel {p : α → Bool} {q : β → Bool} {as : List α} {bs : List β}
    (pairs : List.Forall₂ r as bs) (same : ∀ a b, r a b → q b = p a) :
    Option.Rel r (as.find? p) (bs.find? q) := by
  induction pairs with
  | nil => exact .none
  | @cons a b as bs related _ inductionHypothesis =>
    simp only [List.find?_cons, same a b related]
    cases p a with
    | true => exact .some related
    | false => exact inductionHypothesis

theorem map_eq_of_forall₂ {f : α → γ} {g : β → γ} {as : List α} {bs : List β}
    (pairs : List.Forall₂ r as bs) (same : ∀ a b, r a b → g b = f a) : bs.map g = as.map f := by
  induction pairs with
  | nil => rfl
  | cons related _ inductionHypothesis =>
    rw [List.map_cons, List.map_cons, same _ _ related, inductionHypothesis]

end WireSchema
