import WireSchema.Proofs.DoubleValues

/-! # Rounded quotients

The reciprocal of a double is a quotient with a few more bits than a double has, and two residual
bits for what the division leaves; shifts move these bits to the right until the significand fits.

* `Holds` — an extended mantissa stands for an exact value.  It does so after a division
  (`holds_quotient`) and after any number of shifts (`Holds.shiftRight`), and its rounding is
  nearest to that value (`Holds.nearest`).
* `Filled.exists_roundWithAccuracy_eq` — what is rounded is canonical and nearest to the exact value.
* `exists_unpack_reciprocal_eq` — the reciprocal of a positive double.
-/

namespace WireSchema.Decimal

open Float.Model (Format UnpackedFloat totalExponent)
open Float.Model.UnpackedFloat

/-! ## Rounding -/

/-- A natural number nearest to `q`, and even if another one is as near. -/
structure Nearest (q : ℚ) (n : ℕ) : Prop where
  lower : n - 1 / 2 ≤ q
  upper : q ≤ n + 1 / 2
  even : q = n - 1 / 2 ∨ q = n + 1 / 2 → n % 2 = 0

namespace Nearest

variable {q : ℚ} {n : ℕ}

theorem le_of_cast_le {bound : ℕ} (nearest : Nearest q n) (le : (bound : ℚ) ≤ q) : bound ≤ n := by
  by_contra below
  have : (n : ℚ) + 1 ≤ bound := by exact_mod_cast not_le.mp below
  linarith [nearest.upper]

theorem ge_of_le_cast {bound : ℕ} (nearest : Nearest q n) (le : q ≤ bound) : n ≤ bound := by
  by_contra above
  have : (bound : ℚ) + 1 ≤ n := by exact_mod_cast not_le.mp above
  linarith [nearest.lower]

end Nearest

/-- The mantissa is the value `q` without its fraction, and the residual bits tell where the
    fraction lies: from one half on, and apart from zero and one half. -/
structure Holds (em : ExtendedMantissa) (q : ℚ) : Prop where
  lower : em.mantissa ≤ q
  upper : q < em.mantissa + 1
  round : em.roundBit = true ↔ em.mantissa + 1 / 2 ≤ q
  sticky : em.stickyBit = true ↔ q ≠ em.mantissa ∧ q ≠ em.mantissa + 1 / 2

namespace Holds

variable {em : ExtendedMantissa} {q : ℚ}

theorem shiftRightOne (holds : Holds em q) : Holds em.shiftRightOne (q / 2) := by
  obtain ⟨m, round, sticky⟩ := em
  obtain ⟨lower, upper, isRound, isSticky⟩ := holds
  simp only at lower upper isRound isSticky
  have inexact : (round || sticky) = true ↔ q ≠ m := by
    rw [Bool.or_eq_true, isRound, isSticky]
    grind
  have parts : (m : ℚ) = 2 * (m / 2 : ℕ) + (m % 2 : ℕ) := by
    exact_mod_cast (Nat.div_add_mod m 2).symm
  rcases Nat.mod_two_eq_zero_or_one m with last | last <;> rw [last] at parts <;>
    constructor <;> simp only [ExtendedMantissa.shiftRightOne, last, inexact] <;> grind

theorem shiftRight (holds : Holds em q) (s : ℕ) : Holds (em >>> s) (q / 2 ^ s) := by
  induction s with
  | zero =>
    rw [pow_zero, div_one]
    exact holds
  | succ s ih =>
    rw [pow_succ, ← div_div]
    exact ih.shiftRightOne

/-- The residual bits are all that rounding needs. -/
theorem nearest (holds : Holds em q) : Nearest q em.roundedMantissa := by
  obtain ⟨m, round, sticky⟩ := em
  obtain ⟨lower, upper, isRound, isSticky⟩ := holds
  simp only at lower upper isRound isSticky
  unfold ExtendedMantissa.roundedMantissa
  cases round <;> cases sticky <;>
    simp only [ExtendedMantissa.accuracy, Accuracy.roundToNearestEven]
  · constructor <;> grind
  · constructor <;> grind
  · -- a tie goes to the even neighbour
    rcases Nat.mod_two_eq_zero_or_one m with even | odd
    · rw [even]
      constructor <;> grind
    · rw [odd]
      constructor <;> grind
  · constructor <;> grind

end Holds

/-! ## Division -/

/-- A quotient in natural numbers, with what its remainder says, holds the exact quotient. -/
theorem holds_quotient {a d : ℕ} (pos : 0 < d) :
    Holds (.ofMantissaAndAccuracy (a / d) (accuracyOfFraction (a % d) d)) (a / d) := by
  have posQ : (0 : ℚ) < d := Nat.cast_pos.mpr pos
  have parts : (a / d : ℚ) = (a / d : ℕ) + (a % d : ℕ) / d := by
    have := Nat.div_add_mod a d
    field_simp
    exact_mod_cast this.symm
  have rest := Nat.mod_lt a pos
  have fraction : (a % d : ℕ) / (d : ℚ) < 1 := (div_lt_one posQ).mpr (Nat.cast_lt.mpr rest)
  have zero : (a % d : ℕ) / (d : ℚ) = 0 ↔ a % d = 0 := by simp [posQ.ne']
  have nonneg : 0 ≤ (a % d : ℕ) / (d : ℚ) := by positivity
  have order : (compare (2 * (a % d)) d = .lt → (a % d : ℕ) / (d : ℚ) < 1 / 2) ∧
      (compare (2 * (a % d)) d = .eq → (a % d : ℕ) / (d : ℚ) = 1 / 2) ∧
      (compare (2 * (a % d)) d = .gt → 1 / 2 < (a % d : ℕ) / (d : ℚ)) := by
    rw [div_lt_div_iff₀ posQ two_pos, div_eq_div_iff posQ.ne' two_ne_zero,
      div_lt_div_iff₀ two_pos posQ, Nat.compare_eq_lt, Nat.compare_eq_eq, Nat.compare_eq_gt]
    norm_cast
    omega
  rw [parts, accuracyOfFraction]
  generalize (a % d : ℕ) / (d : ℚ) = f at fraction zero nonneg order
  split
  next exact => constructor <;> simp only [ExtendedMantissa.ofMantissaAndAccuracy] <;> grind
  next inexact =>
    cases which : compare (2 * (a % d)) d <;>
      constructor <;> simp only [ExtendedMantissa.ofMantissaAndAccuracy] <;> grind

theorem targetExponent_binary64 (t : ℤ) :
    Format.binary64.targetExponent t = max (t - 53) (-1074) := rfl

/-- One, divided by a double: the quotient has enough bits for a double. -/
theorem exists_divCore_one_eq {m : ℕ} {e : ℤ} (canonical : Canonical m e) (fits : e ≤ 971) :
    ∃ n k accuracy, divCore .binary64 (2 ^ 52) (-52) m e = (n, k, accuracy) ∧ Filled n k ∧
      Holds (.ofMantissaAndAccuracy n accuracy) (1 / (m * 2 ^ e) / 2 ^ k) := by
  have least := canonical.least
  have target : min (-52 - e) (Format.binary64.targetExponent
      (totalExponent (2 ^ 52) (-52) - totalExponent m e)) =
        -52 - e - (min (m.log2 + 1) (1022 - e).toNat : ℕ) := by
    rw [targetExponent_binary64, totalExponent, totalExponent, Nat.log2_two_pow]
    omega
  have shift : (-52 - e - (-52 - e - (min (m.log2 + 1) (1022 - e).toNat : ℕ))).toNat =
      min (m.log2 + 1) (1022 - e).toNat := by omega
  rw [divCore, target, shift]
  refine ⟨_, _, _, rfl, ⟨Nat.div_pos ?_ canonical.pos, by omega, fun normal => ?_⟩, ?_⟩
  · have one : 2 ^ 1 ≤ 2 ^ min (m.log2 + 1) (1022 - e).toNat :=
      Nat.pow_le_pow_right two_pos (by omega)
    have := canonical.lt
    rw [Nat.shiftLeft_eq]
    omega
  · have below : m < 2 ^ (m.log2 + 1) := Nat.lt_log2_self
    rw [min_eq_left (by omega), Nat.le_div_iff_mul_le canonical.pos, Nat.shiftLeft_eq]
    exact Nat.mul_le_mul_left _ below.le
  · generalize min (m.log2 + 1) (1022 - e).toNat = s
    have posQ : (0 : ℚ) < m := Nat.cast_pos.mpr canonical.pos
    have quotient : (1 / (m * 2 ^ e) / 2 ^ (-52 - e - (s : ℤ)) : ℚ) = (2 ^ 52 <<< s : ℕ) / m := by
      rw [Nat.shiftLeft_eq, zpow_sub₀ two_ne_zero, zpow_sub₀ two_ne_zero, zpow_neg, zpow_natCast]
      push_cast
      field_simp
    rw [quotient]
    exact holds_quotient canonical.pos

/-! ## Shifts to the precision of a double -/

theorem mantissa_shiftRight (em : ExtendedMantissa) (s : ℕ) :
    (em >>> s).mantissa = em.mantissa / 2 ^ s := by
  induction s with
  | zero => exact (Nat.div_one _).symm
  | succ s ih =>
    change (em >>> s).mantissa / 2 = _
    rw [ih, Nat.div_div_eq_div_mul, pow_succ]

@[simp]
theorem mantissa_ofMantissaAndAccuracy (m : ℕ) (accuracy : Accuracy) :
    (ExtendedMantissa.ofMantissaAndAccuracy m accuracy).mantissa = m := by
  rcases accuracy with _ | _ | _ | _ <;> rfl

namespace Filled

variable {m : ℕ} {e : ℤ} {q : ℚ} {accuracy : Accuracy}

theorem shiftToTargetExponent_eq (filled : Filled m e) (accuracy : Accuracy) :
    shiftToTargetExponent .binary64 m e accuracy =
      (ExtendedMantissa.ofMantissaAndAccuracy m accuracy >>> (m.log2 - 52),
        e + (m.log2 - 52 : ℕ)) := by
  have least := filled.least
  have full : -1074 < e → 52 ≤ m.log2 := fun normal =>
    (Nat.le_log2 filled.pos.ne').mpr (filled.full normal)
  have shift : (Format.binary64.targetExponent (totalExponent m e) - e).toNat = m.log2 - 52 := by
    rw [targetExponent_binary64, totalExponent]
    omega
  rw [shiftToTargetExponent, shiftToExponent, shift]

/-- After the first shift and rounding, a significand of 53 bits may have become one of 54. -/
theorem rounded {r : ℕ} (filled : Filled m e) (lower : m ≤ q) (upper : q < m + 1)
    (nearest : Nearest (q / 2 ^ (m.log2 - 52)) r) :
    Filled r (e + (m.log2 - 52 : ℕ)) ∧ r ≤ 2 ^ 53 := by
  have least := filled.least
  have log2_le := Nat.log2_self_le filled.pos.ne'
  have lt_log2 : m + 1 ≤ 2 ^ (m.log2 + 1) := Nat.lt_log2_self
  have reaches (bits : ℕ) (le : bits + (m.log2 - 52) ≤ m.log2) : 2 ^ bits ≤ r := by
    refine nearest.le_of_cast_le ?_
    rw [le_div_iff₀ (by positivity)]
    refine le_trans ?_ lower
    exact_mod_cast (pow_add 2 bits _ ▸ Nat.pow_le_pow_right two_pos le).trans log2_le
  refine ⟨⟨reaches 0 (by omega), by omega, fun normal => reaches 52 ?_⟩, nearest.ge_of_le_cast ?_⟩
  · have full : -1074 < e → 52 ≤ m.log2 := fun normal =>
      (Nat.le_log2 filled.pos.ne').mpr (filled.full normal)
    omega
  · rw [div_le_iff₀ (by positivity)]
    refine upper.le.trans ?_
    have := Nat.pow_le_pow_right two_pos (show m.log2 + 1 ≤ 53 + (m.log2 - 52) by omega)
    exact_mod_cast lt_log2.trans (pow_add 2 53 _ ▸ this)

/-- The second shift moves the only significand of 54 bits, which is a power of two. -/
theorem exists_canonical {r : ℕ} (filled : Filled r e) (short : r ≤ 2 ^ 53)
    (nearest : Nearest q r) :
    ∃ em k, shiftToTargetExponent .binary64 r e .exact = (em, k) ∧ Canonical em.mantissa k ∧
      Nearest (q * 2 ^ e / 2 ^ k) em.mantissa := by
  refine ⟨_, _, filled.shiftToTargetExponent_eq .exact, ?_⟩
  rw [mantissa_shiftRight, mantissa_ofMantissaAndAccuracy]
  rcases short.lt_or_eq with lt | rfl
  · have none : r.log2 - 52 = 0 := by
      have := (Nat.log2_lt filled.pos.ne').mpr lt
      omega
    rw [none, pow_zero, Nat.div_one, Nat.cast_zero, add_zero,
      mul_div_cancel_right₀ _ (zpow_ne_zero _ two_ne_zero)]
    exact ⟨⟨filled, lt⟩, nearest⟩
  · have one : (2 ^ 53).log2 - 52 = 1 := by rw [Nat.log2_two_pow]
    have half : 2 ^ 53 / 2 ^ 1 = 2 ^ 52 := rfl
    have scaled : q * 2 ^ e / 2 ^ (e + 1) = q / 2 := by
      rw [zpow_add_one₀ two_ne_zero]
      field_simp
    have least := filled.least
    obtain ⟨lower, upper, _⟩ := nearest
    norm_num at lower upper
    rw [one, half, Nat.cast_one, scaled]
    refine ⟨⟨⟨by norm_num, by omega, by norm_num⟩, by norm_num⟩, ?_, ?_, by norm_num⟩
    · norm_num
      linarith
    · norm_num
      linarith

theorem roundWithAccuracy_of_shifts {e₁ e₂ : ℤ} {first second : ExtendedMantissa} (sign : Sign)
    (shift : shiftToTargetExponent .binary64 m e accuracy = (first, e₁))
    (again : shiftToTargetExponent .binary64 first.roundedMantissa e₁ .exact = (second, e₂))
    (pos : 0 < second.mantissa) :
    roundWithAccuracy .binary64 sign m e accuracy = .finite sign second.mantissa e₂ pos := by
  simp only [roundWithAccuracy, shift, again, dif_neg pos.ne']

theorem exists_roundWithAccuracy_eq (filled : Filled m e)
    (holds : Holds (.ofMantissaAndAccuracy m accuracy) q) (sign : Sign) :
    ∃ n k pos, roundWithAccuracy .binary64 sign m e accuracy = .finite sign n k pos ∧
      Canonical n k ∧ Nearest (q * 2 ^ e / 2 ^ k) n := by
  have lower := holds.lower
  have upper := holds.upper
  rw [mantissa_ofMantissaAndAccuracy] at lower upper
  have nearest := (holds.shiftRight (m.log2 - 52)).nearest
  obtain ⟨rounded, short⟩ := filled.rounded lower upper nearest
  obtain ⟨em, k, again, canonical, nearest⟩ := rounded.exists_canonical short nearest
  refine ⟨em.mantissa, k, canonical.pos, ?_, canonical, ?_⟩
  · exact roundWithAccuracy_of_shifts sign (filled.shiftToTargetExponent_eq accuracy) again _
  · rwa [zpow_add₀ two_ne_zero, zpow_natCast, div_mul_eq_mul_div, ← mul_assoc,
      mul_div_cancel_right₀ _ (by positivity)] at nearest

end Filled

/-! ## Reciprocals -/

/-- The reciprocal of a positive double is the double nearest to the exact one, if it is not too
    large. -/
theorem exists_unpack_reciprocal_eq {x : Float} {m : ℕ} {e : ℤ} {pos : 0 < m}
    (unpacked : x.toModel.unpack = .finite .positive m e pos) (canonical : Canonical m e)
    (fits : e ≤ 971) :
    ∃ n k pos, (1.0 / x).toModel.unpack =
        (if k ≤ 971 then .finite .positive n k pos else .infinity .positive) ∧
      Canonical n k ∧ Nearest (1 / (m * 2 ^ e) / 2 ^ k) n := by
  obtain ⟨a, b, accuracy, quotient, filled, holds⟩ := exists_divCore_one_eq canonical fits
  obtain ⟨n, k, pos, rounded, canonical, nearest⟩ :=
    filled.exists_roundWithAccuracy_eq holds .positive
  rw [div_mul_cancel₀ _ (zpow_ne_zero _ two_ne_zero)] at nearest
  refine ⟨n, k, pos, ?_, canonical, nearest⟩
  have divided : UnpackedFloat.div .binary64 (1.0 : Float).toModel.unpack x.toModel.unpack =
      .finite .positive n k pos := by
    rw [unpack_one, unpacked, ← rounded]
    simp only [UnpackedFloat.div, quotient]
    rfl
  change (Float.Model.pack (UnpackedFloat.div .binary64 _ _)).unpack = _
  rw [divided]
  exact canonical.unpack_pack pos

end WireSchema.Decimal
