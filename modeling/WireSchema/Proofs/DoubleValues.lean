import WireSchema.Decimal.Shortest
import Mathlib

/-! # Values of doubles

The text of a double is made from a reading of its bits, while division unpacks both operands and
packs the quotient.  The two agree on what the bits say.

* `Reading.value?` — the exact value of a reading.
* `Reading.ofFloat_eq` — a reading is that of the unpacked double.
* `Canonical` — the form of the significand and the exponent of a positive double, and
  `Canonical.unpack_pack` — a double is packed without loss, unless it is too large.
-/

namespace WireSchema.Decimal

open Float.Model (Format UnpackedFloat)
open Float.Model.UnpackedFloat

/-! ## Readings -/

namespace Reading

/-- The exact value, where there is one. -/
def value? : Reading → Option ℚ
  | .finite negative m e _ => some ((if negative then -1 else 1) * (m * 2 ^ e))
  | .zero _ => some 0
  | .infinite _ | .notANumber => none

/-- The reading of an unpacked double. -/
def ofUnpacked : UnpackedFloat → Reading
  | .notANumber => .notANumber
  | .infinity sign => .infinite (sign == .negative)
  | .zero sign => .zero (sign == .negative)
  | .finite sign m e _ => .finite (sign == .negative) m e (m == 2 ^ 52 && decide (-1074 < e))

end Reading

/-! ### Fields of the bits -/

theorem exponentBias_binary64 : Format.binary64.exponentBias = 1023 := rfl

theorem toNat_unpackMantissa (b : BitVec 64) :
    (@unpackMantissa .binary64 b).toNat = b.toNat % 2 ^ 52 := by
  simp [unpackMantissa]

theorem toNat_unpackExponent (b : BitVec 64) :
    (@unpackExponent .binary64 b).toNat = b.toNat / 2 ^ 52 % 2 ^ 11 := by
  simp [unpackExponent, Nat.shiftRight_eq_div_pow]

theorem toNat_unpackSign (b : BitVec 64) :
    (@unpackSign .binary64 b).toNat = b.toNat / 2 ^ 63 := by
  have := b.isLt
  simp [unpackSign, Nat.shiftRight_eq_div_pow]
  omega

/-- The significand of a normal double, with the bit that is not stored. -/
theorem toNat_one_append (mantissa : BitVec 52) :
    (1#1 ++ mantissa).toNat = 2 ^ 52 + mantissa.toNat := by
  rw [BitVec.toNat_append, ← Nat.shiftLeft_add_eq_or_of_lt (BitVec.isLt _)]
  rfl

/-! ### The reading of a double -/

/-- The bits of a double are read as they are unpacked. -/
theorem Reading.ofFloat_eq (x : Float) : ofFloat x = ofUnpacked x.toModel.unpack := by
  set b := x.toModel.toBits.toBitVec with hb
  have bits : x.toBits.toNat = b.toNat := rfl
  have mantissa := toNat_unpackMantissa b
  have exponent := toNat_unpackExponent b
  have negative : (b.toNat / 2 ^ 63 == 1) =
      (Sign.ofBitVec (@unpackSign .binary64 b) == .negative) := by
    rw [← toNat_unpackSign b]
    generalize @unpackSign .binary64 b = sign
    revert sign
    decide
  have full : @unpackExponent .binary64 b = -1#11 ↔ b.toNat / 2 ^ 52 % 2 ^ 11 = 2047 := by
    rw [← exponent, ← BitVec.toNat_inj]
    rfl
  have none : @unpackExponent .binary64 b = 0#11 ↔ b.toNat / 2 ^ 52 % 2 ^ 11 = 0 := by
    rw [← exponent, ← BitVec.toNat_inj]
    rfl
  have noFraction : @unpackMantissa .binary64 b = 0#52 ↔ b.toNat % 2 ^ 52 = 0 := by
    rw [← mantissa, ← BitVec.toNat_inj]
    rfl
  simp only [ofFloat, bits, Float.Model.unpack, ← hb, UnpackedFloat.unpack, full, none, noFraction,
    Nat.pow_eq, negative]
  split
  · split <;> rfl
  · split
    · split
      · rfl
      · rw [ofUnpacked, mantissa, exponent, exponentBias_binary64]
        refine (finite.injEq ..).mpr ⟨rfl, rfl, by omega, ?_⟩
        rw [eq_comm, Bool.and_eq_false_imp, beq_iff_eq, decide_eq_false_iff_not]
        omega
    · rw [ofUnpacked, toNat_one_append, mantissa, exponent, exponentBias_binary64]
      refine (finite.injEq ..).mpr ⟨rfl, rfl, by omega, ?_⟩
      rw [Bool.eq_iff_iff, Bool.and_eq_true, Bool.and_eq_true, beq_iff_eq, beq_iff_eq,
        decide_eq_true_eq, decide_eq_true_eq]
      omega

theorem Reading.ofFloat_of_unpack {x : Float} {m : ℕ} {e : ℤ} {pos : 0 < m}
    (unpacked : x.toModel.unpack = .finite .positive m e pos) :
    ofFloat x = .finite false m e (m == 2 ^ 52 && decide (-1074 < e)) := by
  rw [ofFloat_eq, unpacked]
  rfl

/-! ## Canonical form -/

/-- The significand fills the 53 bits that a double has for it, unless the exponent is the least
    one. -/
structure Filled (m : ℕ) (e : ℤ) : Prop where
  pos : 0 < m
  least : -1074 ≤ e
  full : -1074 < e → 2 ^ 52 ≤ m

/-- The form of a positive double: the significand fills its bits and needs no more of them. -/
structure Canonical (m : ℕ) (e : ℤ) : Prop extends Filled m e where
  lt : m < 2 ^ 53

theorem Reading.canonical_of_ofFloat {x : Float} {negative narrow : Bool} {m : ℕ} {e : ℤ}
    (read : ofFloat x = .finite negative m e narrow) :
    Canonical m e ∧ e ≤ 971 ∧ (narrow = true → m = 2 ^ 52) := by
  have fraction : x.toBits.toNat % 2 ^ 52 < 2 ^ 52 := Nat.mod_lt _ (by norm_num)
  simp only [ofFloat, Nat.pow_eq] at read
  split at read
  · split at read <;> cases read
  · split at read
    · split at read
      · cases read
      · cases read
        exact ⟨⟨⟨by omega, by omega, by omega⟩, by omega⟩, by omega, nofun⟩
    · cases read
      refine ⟨⟨⟨by omega, by omega, by omega⟩, by omega⟩, by omega, fun narrow => ?_⟩
      rw [Bool.and_eq_true, beq_iff_eq] at narrow
      omega

theorem unpack_zero : (0.0 : Float).toModel.unpack = .zero .positive := by
  have bits : (0.0 : Float).toBits = 0 := by decide +kernel
  change UnpackedFloat.unpack .binary64 (0.0 : Float).toBits.toBitVec = _
  rw [bits]
  rfl

theorem unpack_one :
    (1.0 : Float).toModel.unpack = .finite .positive (2 ^ 52) (-52) (Nat.two_pow_pos 52) := by
  have bits : (1.0 : Float).toBits = 0x3FF0000000000000 := by decide +kernel
  change UnpackedFloat.unpack .binary64 (1.0 : Float).toBits.toBitVec = _
  rw [bits]
  rfl

/-- A positive and finite double has a significand and an exponent. -/
theorem exists_unpack_eq {x : Float} (pos : 0.0 < x) (finite : x.isFinite = true) :
    ∃ m e pos, x.toModel.unpack = .finite .positive m e pos := by
  have above : UnpackedFloat.lt (0.0 : Float).toModel.unpack x.toModel.unpack = true :=
    of_decide_eq_true pos
  have finite : UnpackedFloat.isFinite x.toModel.unpack = true := finite
  rw [unpack_zero] at above
  generalize x.toModel.unpack = unpacked at above finite
  match unpacked, above, finite with
  | .finite .positive m e pos, _, _ => exact ⟨m, e, pos, rfl⟩

/-! ## Packing -/

theorem unpackSign_packComponents (sign : Sign) (exponent : BitVec 11) (mantissa : BitVec 52) :
    unpackSign (packComponents .binary64 sign exponent mantissa) = sign.toBitVec := by
  change (sign.toBitVec ++ exponent ++ mantissa).extractLsb' 63 1 = _
  rw [BitVec.extractLsb'_append_eq_of_le (by decide),
    BitVec.extractLsb'_append_eq_of_le (by decide)]
  exact BitVec.extractLsb'_eq_self

theorem unpack_normal {biased m : ℕ} (pos : 0 < m) (normal : 2 ^ 52 ≤ m) (lt : m < 2 ^ 53)
    (biased_pos : 0 < biased) (biased_lt : biased < 2047) :
    UnpackedFloat.unpack .binary64
        (packComponents .binary64 .positive (BitVec.ofNat 11 biased) (BitVec.ofNat 52 m)) =
      .finite .positive m (biased - 1075) pos := by
  have exponent : (BitVec.ofNat 11 biased).toNat = biased := by
    rw [BitVec.toNat_ofNat]
    omega
  have mantissa : (1#1 ++ BitVec.ofNat 52 m).toNat = m := by
    rw [toNat_one_append, BitVec.toNat_ofNat]
    omega
  have notFull : BitVec.ofNat 11 biased ≠ -1#11 := by
    rw [Ne, ← BitVec.toNat_inj, exponent]
    exact biased_lt.ne
  have notNone : BitVec.ofNat 11 biased ≠ 0#11 := by
    rw [Ne, ← BitVec.toNat_inj, exponent]
    exact biased_pos.ne'
  simp only [UnpackedFloat.unpack, unpackMantissa_packComponents,
    unpackExponent_packComponents, unpackSign_packComponents, if_neg notFull, if_neg notNone]
  refine (finite.injEq ..).mpr ⟨rfl, mantissa, ?_⟩
  rw [exponent, exponentBias_binary64]
  omega

theorem unpack_subnormal {m : ℕ} (pos : 0 < m) (lt : m < 2 ^ 52) :
    UnpackedFloat.unpack .binary64
        (packComponents .binary64 .positive 0#11 (BitVec.ofNat 52 m)) =
      .finite .positive m (-1074) pos := by
  have mantissa : (BitVec.ofNat 52 m).toNat = m := by
    rw [BitVec.toNat_ofNat]
    omega
  have nonzero : BitVec.ofNat 52 m ≠ 0#52 := by
    rw [Ne, ← BitVec.toNat_inj, mantissa]
    exact pos.ne'
  have notFull : (0#11 : BitVec 11) ≠ -1#11 := by decide
  simp only [UnpackedFloat.unpack, unpackMantissa_packComponents,
    unpackExponent_packComponents, unpackSign_packComponents, if_neg notFull, if_true,
    dif_neg nonzero]
  exact (finite.injEq ..).mpr ⟨rfl, mantissa, rfl⟩

namespace Canonical

variable {m : ℕ} {e : ℤ}

theorem log2_eq_iff (canonical : Canonical m e) :
    m.log2 + 1 = Format.binary64.mantissaBits ↔ 2 ^ 52 ≤ m := by
  have below : m.log2 < 53 := (Nat.log2_lt canonical.pos.ne').mpr canonical.lt
  have reaches := Nat.le_log2 canonical.pos.ne' (k := 52)
  have bits : Format.binary64.mantissaBits = 53 := rfl
  omega

/-- The largest exponent is 971; what is larger is packed as infinity. -/
theorem unpack_pack (canonical : Canonical m e) (pos : 0 < m) :
    (Float.Model.pack (.finite .positive m e pos)).unpack =
      if e ≤ 971 then .finite .positive m e pos else .infinity .positive := by
  have lt := canonical.lt
  have least := canonical.least
  have full := canonical.full
  simp only [Float.Model.unpack, Float.Model.pack, UnpackedFloat.pack, canonical.log2_eq_iff,
    exponentBias_binary64]
  by_cases fits : e ≤ 971
  · rw [if_pos fits, if_neg (by omega)]
    split
    next normal =>
      rw [unpack_normal pos normal lt (by omega) (by omega)]
      congr 1
      omega
    next subnormal =>
      rw [unpack_subnormal pos (by omega)]
      congr 1
      omega
  · rw [if_neg fits, if_pos (by omega)]
    rfl

end Canonical

end WireSchema.Decimal
