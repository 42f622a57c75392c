import WireSchema.Decimal.Shortest
import Mathlib.Algebra.Order.Field.Basic
import Mathlib.Algebra.Order.Field.Power
import Mathlib.Tactic.FieldSimp
import Mathlib.Tactic.Linarith
import Mathlib.Tactic.Positivity
import Mathlib.Tactic.Ring

/-! # Shortest decimals lie in the interval

The search for the shortest decimal of a double looks at one grid of decimals after the other, in
natural numbers, and up to seventeen digits.  Here is what it finds, in exact fractions.

* `toRat` — the value of a decimal, which `toRat_cutZeros` keeps, and `Near` — how far a value may
  be from a double.
* `Interval.bounds_of_containsDecimal` — what is found lies between the ends of the interval.
* `Interval.isSome_onGrid?` — a grid that is fine enough has a point there, and with seventeen
  digits it is (`Interval.bounds_shortest`).
* `shortest_near` — the shortest decimal of a double is within half a unit of it.
-/

namespace WireSchema.Decimal

/-! ## Values -/

/-- The value of a decimal. -/
def toRat (d : Decimal) : ℚ :=
  d.digits * 10 ^ d.exponent

theorem toRat_cutZeros (fuel : ℕ) (d : Decimal) : toRat (d.cutZeros fuel) = toRat d := by
  induction fuel generalizing d with
  | zero => rfl
  | succ fuel ih =>
    rw [Decimal.cutZeros]
    split
    next zero =>
      have whole : (d.digits : ℚ) = (d.digits / 10 : ℕ) * 10 := by
        exact_mod_cast (Nat.div_mul_cancel (Nat.dvd_of_mod_eq_zero zero)).symm
      rw [ih, toRat, toRat, whole, zpow_add_one₀ (by norm_num)]
      ring
    next => rfl

/-- `v` is at most half a unit of the last bit away from `m * 2 ^ e`. -/
structure Near (v : ℚ) (m : ℕ) (e : ℤ) : Prop where
  lower : (m - 1 / 2) * 2 ^ e ≤ v
  upper : v ≤ (m + 1 / 2) * 2 ^ e

/-- A power as the fraction in which only one of two natural powers is not one. -/
theorem zpow_eq_div (b : ℕ) (s : ℤ) : (b : ℚ) ^ s = (b ^ s.toNat : ℕ) / (b ^ (-s).toNat : ℕ) := by
  rcases le_total 0 s with nonneg | nonpos
  · lift s to ℕ using nonneg
    simp
  · obtain ⟨n, rfl⟩ := Int.exists_eq_neg_ofNat nonpos
    simp [zpow_neg]

/-! ## Points of an interval -/

namespace Interval

/-- The unit in which the ends of an interval are given. -/
def unit (i : Interval) : ℚ :=
  i.up / i.down

/-- The double is positive, and lies between the ends of its interval. -/
structure Proper (i : Interval) : Prop where
  up : 0 < i.up
  down : 0 < i.down
  middle : 0 < i.middle
  low : i.low < i.middle
  high : i.middle < i.high

variable {i : Interval} {tie : Tie} {s : ℤ} {c : ℕ}

theorem unit_pos (proper : Proper i) : 0 < i.unit :=
  div_pos (Nat.cast_pos.mpr proper.up) (Nat.cast_pos.mpr proper.down)

/-- Both sides of a comparison in natural numbers are fractions of one denominator. -/
theorem exists_denominator (proper : Proper i) (a c : ℕ) (s : ℤ) :
    ∃ d : ℚ, 0 < d ∧ (a * (i.up * Nat.pow 10 (-s).toNat) : ℕ) = a * i.unit * d ∧
      (c * (Nat.pow 10 s.toNat * i.down) : ℕ) = c * (10 : ℚ) ^ s * d := by
  have down : (0 : ℚ) < i.down := Nat.cast_pos.mpr proper.down
  have power := zpow_eq_div 10 s
  rw [Nat.cast_ofNat] at power
  refine ⟨i.down * (10 ^ (-s).toNat : ℕ), by positivity, ?_, ?_⟩
  · rw [unit, Nat.pow_eq]
    push_cast
    field_simp
  · rw [power, Nat.pow_eq]
    push_cast
    field_simp

theorem mul_unit_le_iff (proper : Proper i) (a c : ℕ) (s : ℤ) :
    a * (i.up * Nat.pow 10 (-s).toNat) ≤ c * (Nat.pow 10 s.toNat * i.down) ↔
      a * i.unit ≤ c * (10 : ℚ) ^ s := by
  obtain ⟨d, pos, left, right⟩ := exists_denominator proper a c s
  rw [← @Nat.cast_le ℚ, left, right, mul_le_mul_iff_left₀ pos]

theorem le_mul_unit_iff (proper : Proper i) (a c : ℕ) (s : ℤ) :
    c * (Nat.pow 10 s.toNat * i.down) ≤ a * (i.up * Nat.pow 10 (-s).toNat) ↔
      c * (10 : ℚ) ^ s ≤ a * i.unit := by
  obtain ⟨d, pos, left, right⟩ := exists_denominator proper a c s
  rw [← @Nat.cast_le ℚ, left, right, mul_le_mul_iff_left₀ pos]

theorem bounds_of_containsDecimal (proper : Proper i) (contains : i.containsDecimal s c = true) :
    i.low * i.unit ≤ c * (10 : ℚ) ^ s ∧ c * (10 : ℚ) ^ s ≤ i.high * i.unit := by
  rw [← mul_unit_le_iff proper, ← le_mul_unit_iff proper]
  simp only [containsDecimal] at contains
  split at contains <;>
    rw [Bool.and_eq_true, decide_eq_true_eq, decide_eq_true_eq] at contains
  · exact contains
  · exact ⟨contains.1.le, contains.2.le⟩

theorem containsDecimal_of_bounds (proper : Proper i) (lower : i.low * i.unit < c * (10 : ℚ) ^ s)
    (upper : c * (10 : ℚ) ^ s < i.high * i.unit) : i.containsDecimal s c = true := by
  rw [← not_le, ← le_mul_unit_iff proper, not_le] at lower
  rw [← not_le, ← mul_unit_le_iff proper, not_le] at upper
  simp only [containsDecimal]
  split <;> rw [Bool.and_eq_true, decide_eq_true_eq, decide_eq_true_eq]
  · exact ⟨lower.le, upper.le⟩
  · exact ⟨lower, upper⟩

/-! ## Points of a grid -/

theorem containsDecimal_of_onGrid? (found : i.onGrid? tie s = some c) :
    i.containsDecimal s c = true := by
  simp only [onGrid?] at found
  split at found
  next => cases found
  next contains _ =>
    cases found
    exact contains
  next _ contains =>
    cases found
    exact contains
  next => grind

/-- A grid that is finer than the interval has a point in it next to the double. -/
theorem isSome_onGrid? (proper : Proper i) (tie : Tie)
    (fine : (10 : ℚ) ^ s < (i.high - i.low) * i.unit) : (i.onGrid? tie s).isSome = true := by
  set grid := Nat.pow 10 s.toNat * i.down with hgrid
  set below := i.middle * (i.up * Nat.pow 10 (-s).toNat) / grid with hbelow
  have gridPos : 0 < grid := Nat.mul_pos (Nat.pow_pos (by norm_num)) proper.down
  have lower : below * (10 : ℚ) ^ s ≤ i.middle * i.unit :=
    (le_mul_unit_iff proper ..).mp (Nat.div_mul_le_self ..)
  have upper : i.middle * i.unit < (below + 1 : ℕ) * (10 : ℚ) ^ s := by
    rw [← not_le, ← le_mul_unit_iff proper, not_le]
    exact (Nat.div_lt_iff_lt_mul gridPos).mp (Nat.lt_succ_self _)
  have step : ((below + 1 : ℕ) : ℚ) * (10 : ℚ) ^ s = below * 10 ^ s + 10 ^ s := by
    push_cast
    ring
  have under : (i.low : ℚ) * i.unit < i.middle * i.unit :=
    mul_lt_mul_of_pos_right (Nat.cast_lt.mpr proper.low) (unit_pos proper)
  have above : (i.middle : ℚ) * i.unit < i.high * i.unit :=
    mul_lt_mul_of_pos_right (Nat.cast_lt.mpr proper.high) (unit_pos proper)
  have found : i.containsDecimal s below = true ∨ i.containsDecimal s (below + 1) = true := by
    by_cases inside : i.low * i.unit < below * (10 : ℚ) ^ s
    · exact .inl (containsDecimal_of_bounds proper inside (lower.trans_lt above))
    · refine .inr (containsDecimal_of_bounds proper (under.trans upper) ?_)
      linarith
  simp only [onGrid?]
  split <;> grind

/-! ## The position of the point -/

theorem pow_digitCount_le {n : ℕ} (pos : 0 < n) : 10 ^ (digitCount n - 1) ≤ n := by
  by_contra short
  rcases Nat.eq_zero_or_pos (digitCount n - 1) with one | more
  · rw [one] at short
    omega
  · have := (Nat.length_toDigits_le_iff (by norm_num) more).mpr (not_le.mp short)
    unfold digitCount at this more
    omega

theorem lt_pow_digitCount (n : ℕ) : n < 10 ^ digitCount n :=
  (Nat.length_toDigits_le_iff (by norm_num) Nat.length_toDigits_pos).mp le_rfl

/-- The double has at least the digit in front of the position that is counted. -/
theorem pow_pointPosition_le (proper : Proper i) :
    (10 : ℚ) ^ (i.pointPosition - 1) ≤ i.middle * i.unit := by
  have down : (0 : ℚ) < i.down := Nat.cast_pos.mpr proper.down
  have num : 0 < i.middle * i.up := Nat.mul_pos proper.middle proper.up
  rw [unit, mul_div_assoc', le_div_iff₀ down, pointPosition]
  split
  next above =>
    have whole : 0 < i.middle * i.up / i.down := Nat.div_pos above proper.down
    have count : 0 < digitCount (i.middle * i.up / i.down) := Nat.length_toDigits_pos
    have reaches := Nat.mul_le_of_le_div _ _ _ (pow_digitCount_le whole)
    have exponent : (digitCount (i.middle * i.up / i.down) : ℤ) - 1 =
      (digitCount (i.middle * i.up / i.down) - 1 : ℕ) := by omega
    rw [exponent, zpow_natCast]
    exact_mod_cast reaches
  next below =>
    have short := lt_pow_digitCount ((i.down + i.middle * i.up - 1) / (i.middle * i.up) - 1)
    generalize digitCount ((i.down + i.middle * i.up - 1) / (i.middle * i.up) - 1) = j at short
    have fits : i.down + i.middle * i.up - 1 < (10 ^ j + 1) * (i.middle * i.up) :=
      (Nat.div_lt_iff_lt_mul num).mp (by omega)
    have scaled : i.down ≤ i.middle * i.up * 10 ^ j := by
      rw [add_mul, one_mul, mul_comm (10 ^ j)] at fits
      omega
    have exponent : (1 : ℤ) - j - 1 = -j := by ring
    rw [exponent, zpow_neg, zpow_natCast, inv_mul_le_iff₀ (by positivity), mul_comm]
    exact_mod_cast scaled

/-! ## The search -/

/-- With seventeen digits there is a point in an interval that is not too narrow for its double, so
    that the search ends in the interval. -/
theorem bounds_shortest (proper : Proper i)
    (wide : (i.middle : ℚ) < 10 ^ 16 * (i.high - i.low)) (tie : Tie) :
    i.low * i.unit ≤ toRat (i.shortest tie) ∧ toRat (i.shortest tie) ≤ i.high * i.unit := by
  have last : (i.onGrid? tie (i.pointPosition - (16 + 1))).isSome = true := by
    refine isSome_onGrid? proper tie ?_
    have exponent : i.pointPosition - (16 + 1) = i.pointPosition - 1 - 16 := by ring
    rw [exponent, zpow_sub₀ (by norm_num), div_lt_iff₀ (by positivity)]
    calc (10 : ℚ) ^ (i.pointPosition - 1) ≤ i.middle * i.unit := pow_pointPosition_le proper
      _ < 10 ^ 16 * (i.high - i.low) * i.unit := mul_lt_mul_of_pos_right wide (unit_pos proper)
      _ = (i.high - i.low) * i.unit * 10 ^ (16 : ℤ) := by
        rw [zpow_ofNat]
        ring
  simp only [Interval.shortest]
  cases found : (List.range 17).findSome? fun (n : ℕ) =>
      (i.onGrid? tie (i.pointPosition - ((n : ℤ) + 1))).map fun c =>
        (⟨c, i.pointPosition - ((n : ℤ) + 1)⟩ : Decimal) with
  | none =>
    have none := List.findSome?_eq_none_iff.mp found 16 (by decide)
    rw [Option.map_eq_none_iff] at none
    exact absurd none (Option.isSome_iff_ne_none.mp last)
  | some d =>
    obtain ⟨n, -, mapped⟩ := List.exists_of_findSome?_eq_some found
    obtain ⟨c, grid, rfl⟩ := Option.map_eq_some_iff.mp mapped
    exact bounds_of_containsDecimal proper (containsDecimal_of_onGrid? grid)

/-! ## The interval of a double -/

theorem proper_around {m : ℕ} (pos : 0 < m) (e : ℤ) (narrow : Bool) :
    Proper (around m e narrow) where
  up := Nat.pow_pos two_pos
  down := Nat.pow_pos two_pos
  middle := by
    simp only [around]
    omega
  low := by
    simp only [around]
    split <;> omega
  high := by
    simp only [around]
    omega

theorem unit_around (m : ℕ) (e : ℤ) (narrow : Bool) : (around m e narrow).unit = 2 ^ e / 4 := by
  have power := zpow_eq_div 2 (e - 2)
  rw [Nat.cast_ofNat, neg_sub] at power
  refine power.symm.trans ?_
  rw [zpow_sub₀ two_ne_zero]
  norm_num

theorem shortest_around_near {m : ℕ} (pos : 0 < m) (lt : m < 2 ^ 53) (e : ℤ) {narrow : Bool}
    (power : narrow = true → m = 2 ^ 52) (tie : Tie) :
    Near (toRat ((around m e narrow).shortest tie)) m e := by
  have low : (around m e narrow).low = 4 * (m : ℚ) - if narrow then 1 else 2 := by
    simp only [around]
    split <;>
      rw [Nat.cast_sub (by omega)] <;> norm_num
  have middle : ((around m e narrow).middle : ℚ) = 4 * m := by simp [around]
  have high : ((around m e narrow).high : ℚ) = 4 * m + 2 := by simp [around]
  have wide : ((around m e narrow).middle : ℚ) <
      10 ^ 16 * ((around m e narrow).high - (around m e narrow).low) := by
    rw [low, middle, high]
    split
    next half =>
      rw [power half]
      norm_num
    next =>
      have : (m : ℚ) < 2 ^ 53 := by exact_mod_cast lt
      linarith
  have bounds := bounds_shortest (proper_around pos e narrow) wide tie
  have posE : (0 : ℚ) < 2 ^ e := by positivity
  rw [unit_around, low, high] at bounds
  constructor
  · refine le_trans ?_ bounds.1
    split <;> linarith
  · refine bounds.2.trans (le_of_eq ?_)
    ring

end Interval

/-- The shortest decimal of a double is at most half a unit of its last bit away from it. -/
theorem shortest_near {m : ℕ} (pos : 0 < m) (lt : m < 2 ^ 53) (e : ℤ) {narrow : Bool}
    (power : narrow = true → m = 2 ^ 52) (tie : Tie) :
    Near (toRat (shortest tie m e narrow)) m e := by
  rw [shortest, toRat_cutZeros]
  exact Interval.shortest_around_near pos lt e power tie

end WireSchema.Decimal
