import WireSchema.Output.ClassDecl
import WireSchema.Proofs.ShortestDecimals
import Mathlib.Data.List.TakeWhile

/-! # Values of decimal literals

The factors of a scale are written as decimal literals with the suffix `f`, and such a literal
stands for an exact decimal value before it is rounded to a `float`.

* `numeralValue?`, `literalValue?` — the value of a numeral, and of a literal.
* `numeralValue?_writePositional` — digits are written so that they have the value of the decimal.
* `literalValue?_floatLiteral` — the literal of a positive double has the value of its shortest
  decimal.
-/

namespace WireSchema.Decimal

/-! ## Numerals -/

/-- The value of a numeral: digits, or digits with a point between them. -/
def numeralValue? (cs : List Char) : Option ℚ :=
  let whole := cs.takeWhile Char.isDigit
  if whole = [] then none
  else
    match cs.dropWhile Char.isDigit with
    | [] => some (Nat.ofDigitChars 10 whole 0)
    | '.' :: fraction =>
      if fraction ≠ [] ∧ fraction.all Char.isDigit then
        some (Nat.ofDigitChars 10 whole 0 + Nat.ofDigitChars 10 fraction 0 / 10 ^ fraction.length)
      else none
    | _ => none

/-- Digits, and at least one of them. -/
structure Digits (cs : List Char) : Prop where
  ne_nil : cs ≠ []
  isDigit : ∀ c ∈ cs, c.isDigit = true

namespace Digits

variable {digits : List Char}

theorem toDigits (n : ℕ) : Digits (Nat.toDigits 10 n) :=
  ⟨Nat.toDigits_ne_nil, fun _ mem => Nat.isDigit_of_mem_toDigits (by norm_num) le_rfl mem⟩

theorem zeros_append (is : Digits digits) (count : ℕ) :
    Digits (List.replicate count '0' ++ digits) := by
  refine ⟨by simp [is.ne_nil], fun c mem => ?_⟩
  rcases List.mem_append.mp mem with zero | digit
  · rw [List.eq_of_mem_replicate zero]
    rfl
  · exact is.isDigit c digit

theorem append_zeros (is : Digits digits) (count : ℕ) :
    Digits (digits ++ List.replicate count '0') := by
  refine ⟨by simp [is.ne_nil], fun c mem => ?_⟩
  rcases List.mem_append.mp mem with digit | zero
  · exact is.isDigit c digit
  · rw [List.eq_of_mem_replicate zero]
    rfl

theorem take (is : Digits digits) {n : ℕ} (pos : 0 < n) : Digits (digits.take n) :=
  ⟨by simp [is.ne_nil, pos.ne'], fun c mem => is.isDigit c (List.mem_of_mem_take mem)⟩

theorem drop (is : Digits digits) {n : ℕ} (lt : n < digits.length) : Digits (digits.drop n) :=
  ⟨by simpa using lt, fun c mem => is.isDigit c (List.mem_of_mem_drop mem)⟩

end Digits

theorem numeralValue?_whole {whole : List Char} (digits : Digits whole) :
    numeralValue? whole = some (Nat.ofDigitChars 10 whole 0 : ℚ) := by
  have took : whole.takeWhile Char.isDigit = whole :=
    List.takeWhile_eq_self_iff.mpr digits.isDigit
  have dropped : whole.dropWhile Char.isDigit = [] :=
    List.dropWhile_eq_nil_iff.mpr digits.isDigit
  simp only [numeralValue?, took, dropped, if_neg digits.ne_nil]

theorem numeralValue?_fraction {whole fraction : List Char} (digits : Digits whole)
    (more : Digits fraction) :
    numeralValue? (whole ++ '.' :: fraction) =
      some (Nat.ofDigitChars 10 (whole ++ fraction) 0 / 10 ^ fraction.length : ℚ) := by
  have took : (whole ++ '.' :: fraction).takeWhile Char.isDigit = whole := by
    rw [List.takeWhile_append_of_pos digits.isDigit]
    simp
  have dropped : (whole ++ '.' :: fraction).dropWhile Char.isDigit = '.' :: fraction := by
    rw [List.dropWhile_append_of_pos digits.isDigit]
    simp
  have joined : (Nat.ofDigitChars 10 whole 0 +
      Nat.ofDigitChars 10 fraction 0 / 10 ^ fraction.length : ℚ) =
        Nat.ofDigitChars 10 (whole ++ fraction) 0 / 10 ^ fraction.length := by
    rw [Nat.ofDigitChars_append,
      @Nat.ofDigitChars_eq_ofDigitChars_zero fraction (Nat.ofDigitChars 10 whole 0)]
    push_cast
    field_simp
  have all : fraction ≠ [] ∧ fraction.all Char.isDigit = true :=
    ⟨more.ne_nil, List.all_eq_true.mpr more.isDigit⟩
  simp only [numeralValue?, took, dropped, if_neg digits.ne_nil, if_pos all, joined]

/-- Wherever the point is, in front of the digits, behind them or among them, the numeral has the
    value of the digits with their point there. -/
theorem numeralValue?_writePositional {layout : Layout} (bare : layout.wholeFraction = false)
    {digits : List Char} (is : Digits digits) (position : ℤ) :
    numeralValue? (layout.writePositional digits position) =
      some ((Nat.ofDigitChars 10 digits 0 : ℚ) * 10 ^ (position - digits.length)) := by
  unfold Layout.writePositional
  split
  next front =>
    have zero : Digits ['0'] := .toDigits 0
    have point : ['0', '.'] ++ List.replicate (-position).toNat '0' ++ digits =
        ['0'] ++ '.' :: (List.replicate (-position).toNat '0' ++ digits) := by simp
    have exponent : position - digits.length =
        -(((-position).toNat + digits.length : ℕ) : ℤ) := by omega
    rw [point, numeralValue?_fraction zero (is.zeros_append _), exponent, zpow_neg, zpow_natCast]
    simp [Nat.ofDigitChars_append, Nat.ofDigitChars_cons, div_eq_mul_inv]
  next =>
    split
    next behind =>
      have exponent : position - digits.length = ((position.toNat - digits.length : ℕ) : ℤ) := by
        omega
      rw [Layout.wholeEnd, bare, if_neg Bool.false_ne_true, List.append_nil,
        numeralValue?_whole (is.append_zeros _), exponent, zpow_natCast, Nat.ofDigitChars_append,
        Nat.ofDigitChars_replicate_zero]
      push_cast
      rw [mul_comm]
    next among =>
      have exponent : position - digits.length = -((digits.length - position.toNat : ℕ) : ℤ) := by
        omega
      rw [List.append_assoc, List.singleton_append,
        numeralValue?_fraction (is.take (by omega)) (is.drop (by omega)), List.take_append_drop,
        List.length_drop, exponent, zpow_neg, zpow_natCast, div_eq_mul_inv]

/-! ## Literals -/

/-- The exact value of a `float` literal: a numeral with the suffix `f`. -/
def literalValue? (text : String) : Option ℚ :=
  match text.toList.getLast? with
  | some 'f' => numeralValue? text.toList.dropLast
  | _ => none

theorem literalValue?_floatLiteral {x : Float} {m : ℕ} {e : ℤ} {narrow : Bool}
    (read : Reading.ofFloat x = .finite false m e narrow) :
    literalValue? (Output.floatLiteral x) = some (toRat (shortest scaleLayout.tie m e narrow)) := by
  have numeral : (Output.floatLiteral x).toList =
      scaleLayout.write (shortest scaleLayout.tie m e narrow) ++ ['f'] := by
    rw [Output.floatLiteral, Layout.format, read]
    simp [Layout.signed]
  rw [literalValue?, numeral, List.getLast?_concat, List.dropLast_concat]
  simp only
  generalize shortest scaleLayout.tie m e narrow = d
  have positional (position : ℤ) : scaleLayout.isPositional position = true := rfl
  rw [Layout.write, if_pos (positional _), numeralValue?_writePositional rfl (.toDigits _),
    Nat.ofDigitChars_ten_toDigits, add_sub_cancel_left, toRat]

/-- Large doubles are written with all their digits. -/
example : Output.floatLiteral 1e21 = "1000000000000000000000f" ∧
    literalValue? (Output.floatLiteral 0.015) = some (15 / 1000) := by
  decide +kernel

end WireSchema.Decimal
