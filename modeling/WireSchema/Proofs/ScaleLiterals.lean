import WireSchema.Proofs.DecimalLiterals
import WireSchema.Proofs.RoundedQuotients
import WireSchema.Proofs.WireLayouts

/-! # Scales as `float` literals

A scale and its reciprocal are checked as doubles, and written as literals of type `float`, which
has a smaller range.  The largest values are the narrow part: where none of the two literals is too
large, none is too small either.

* `Usable` — a decimal value that is rounded to a `float` other than zero and infinity.
* `Canonical.compare_floatLimit` — how a double, with half a unit on both sides, lies to the limit.
* `Near.lt_floatLimit_iff`, `Nearest.le_floatLimit_iff` — the limit for the literal of a double, and
  for the double that is nearest to a reciprocal.
* `scale_literals_usable_iff` — the scales with usable literals.
-/

namespace WireSchema.Decimal

/-! ## The range of a `float` -/

/-- The least value that is rounded to infinity as a `float`: halfway between the largest `float`
    and the next power of two. -/
def floatLimit : ℚ := 2 ^ 128 - 2 ^ 103

/-- The value is rounded to a `float` that is neither zero nor infinite. -/
def Usable (v : ℚ) : Prop :=
  1 / 2 ^ 150 < v ∧ v < floatLimit

/-- The limit is a double, with this significand and the exponent 75. -/
def limitSignificand : ℕ := 2 ^ 53 - 2 ^ 28

theorem floatLimit_eq : floatLimit = limitSignificand * 2 ^ (75 : ℤ) := by
  norm_num [floatLimit, limitSignificand]

theorem floatLimit_add : floatLimit + 2 ^ 74 = (limitSignificand + 1 / 2) * 2 ^ (75 : ℤ) := by
  norm_num [floatLimit, limitSignificand]

variable {m n : ℕ} {e k : ℤ} {v w : ℚ}

/-- A double is below the limit by more than half a unit, or it is the limit, or the next double
    after it, or it is above that one. -/
theorem Canonical.compare_floatLimit (canonical : Canonical m e) :
    (m + 1 / 2) * 2 ^ e < floatLimit ∨ (m = limitSignificand ∧ e = 75) ∨
      (m = limitSignificand + 1 ∧ e = 75) ∨ floatLimit + 2 ^ 74 < (m - 1 / 2) * 2 ^ e := by
  rcases lt_trichotomy e 75 with less | rfl | more
  · left
    have short : (m : ℚ) + 1 ≤ 2 ^ 53 := by exact_mod_cast canonical.lt
    calc (m + 1 / 2) * 2 ^ e ≤ (2 ^ 53 : ℚ) * 2 ^ (74 : ℤ) :=
          mul_le_mul (by linarith) (zpow_le_zpow_right₀ one_le_two (by omega)) (by positivity)
            (by positivity)
      _ < floatLimit := by norm_num [floatLimit]
  · have pos : (0 : ℚ) < 2 ^ (75 : ℤ) := by positivity
    obtain less | rfl | rfl | more : m + 1 ≤ limitSignificand ∨ m = limitSignificand ∨
        m = limitSignificand + 1 ∨ limitSignificand + 2 ≤ m := by omega
    · left
      have short : (m : ℚ) + 1 ≤ limitSignificand := by exact_mod_cast less
      rw [floatLimit_eq]
      exact mul_lt_mul_of_pos_right (by linarith) pos
    · exact .inr (.inl ⟨rfl, rfl⟩)
    · exact .inr (.inr (.inl ⟨rfl, rfl⟩))
    · right; right; right
      have long : (limitSignificand : ℚ) + 2 ≤ m := by exact_mod_cast more
      rw [floatLimit_add]
      exact mul_lt_mul_of_pos_right (by linarith) pos
  · right; right; right
    have long : (2 : ℚ) ^ 52 ≤ m := by exact_mod_cast canonical.full (by omega)
    calc floatLimit + 2 ^ 74 < ((2 ^ 52 - 1 / 2) * 2 ^ (76 : ℤ) : ℚ) := by norm_num [floatLimit]
      _ ≤ (m - 1 / 2) * 2 ^ e :=
        mul_le_mul (by linarith) (zpow_le_zpow_right₀ one_le_two (by omega)) (by positivity)
          (by linarith)

/-! ## Literals near a double -/

namespace Near

theorem lt_floatLimit_iff (near : Near v m e) (canonical : Canonical m e)
    (atLimit : m = limitSignificand → e = 75 → v < floatLimit) :
    v < floatLimit ↔ m * 2 ^ e ≤ floatLimit := by
  obtain ⟨lower, upper⟩ := near
  have pos : (0 : ℚ) < 2 ^ e := by positivity
  rcases canonical.compare_floatLimit with below | ⟨rfl, rfl⟩ | ⟨rfl, rfl⟩ | above
  · exact iff_of_true (by linarith) (by linarith)
  · exact iff_of_true (atLimit rfl rfl) floatLimit_eq.ge
  · push_cast at lower ⊢
    have := floatLimit_eq
    exact iff_of_false (by linarith) (by linarith)
  · exact iff_of_false (by linarith) (by linarith)

theorem half_le (near : Near v m e) (pos : 0 < m) : m * 2 ^ e / 2 ≤ v := by
  have one : (1 : ℚ) ≤ m := by exact_mod_cast pos
  have unit : (0 : ℚ) < 2 ^ e := by positivity
  have lower := near.lower
  nlinarith

theorem le_three_halves (near : Near v m e) (pos : 0 < m) : v ≤ 3 / 2 * (m * 2 ^ e) := by
  have one : (1 : ℚ) ≤ m := by exact_mod_cast pos
  have unit : (0 : ℚ) < 2 ^ e := by positivity
  have upper := near.upper
  nlinarith

end Near

/-- The limit itself has a shortest decimal below it. -/
theorem shortest_limit : shortest .up limitSignificand 75 false = ⟨34028235677973366, 22⟩ := by
  decide +kernel

/-- The literal of a double has a value near it, and below the limit if the double is the limit. -/
theorem exists_literalValue_eq {x : Float} {narrow : Bool}
    (read : Reading.ofFloat x = .finite false m e narrow) :
    ∃ v, literalValue? (Output.floatLiteral x) = some v ∧ Near v m e ∧
      (m = limitSignificand → e = 75 → v < floatLimit) := by
  obtain ⟨canonical, -, power⟩ := Reading.canonical_of_ofFloat read
  refine ⟨_, literalValue?_floatLiteral read,
    shortest_near canonical.pos canonical.lt e power _, ?_⟩
  rintro rfl rfl
  have wide : narrow = false := by
    cases narrow
    · rfl
    · exact absurd (power rfl) (by decide)
  rw [wide, show scaleLayout.tie = .up from rfl, shortest_limit]
  norm_num [toRat, floatLimit]

/-! ## The nearest double to a reciprocal -/

namespace Nearest

variable {x : ℚ}

theorem near (nearest : Nearest (x / 2 ^ k) n) : Near x n k := by
  have pos : (0 : ℚ) < 2 ^ k := by positivity
  exact ⟨(le_div_iff₀ pos).mp nearest.lower, (div_le_iff₀ pos).mp nearest.upper⟩

/-- What is rounded to the limit or less is at most half a unit above it. -/
theorem le_floatLimit_iff (nearest : Nearest (x / 2 ^ k) n) (canonical : Canonical n k) :
    n * 2 ^ k ≤ floatLimit ↔ x ≤ floatLimit + 2 ^ 74 := by
  obtain ⟨lower, upper⟩ := nearest.near
  have pos : (0 : ℚ) < 2 ^ k := by positivity
  rcases canonical.compare_floatLimit with below | ⟨rfl, rfl⟩ | ⟨rfl, rfl⟩ | above
  · exact iff_of_true (by linarith) (by linarith)
  · exact iff_of_true floatLimit_eq.ge (floatLimit_add ▸ upper)
  · -- a tie would have gone to the limit, which is even
    have tie : x ≠ floatLimit + 2 ^ 74 := by
      rintro rfl
      have odd := nearest.even (.inl ?_)
      · norm_num [limitSignificand] at odd
      · rw [floatLimit_add, mul_div_cancel_right₀ _ pos.ne']
        push_cast
        ring
    push_cast at lower ⊢
    have := floatLimit_eq
    have := floatLimit_add
    exact iff_of_false (by linarith) fun le => tie (le.antisymm (by linarith))
  · exact iff_of_false (by linarith) (by linarith)

end Nearest

/-- Values near a double and near the double of its reciprocal are usable exactly if the double and
    its reciprocal are not too large. -/
theorem usable_iff (scale : Canonical m e) (reciprocal : Canonical n k)
    (nearest : Nearest (1 / (m * 2 ^ e) / 2 ^ k) n) (nearV : Near v m e) (nearW : Near w n k)
    (limitV : m = limitSignificand → e = 75 → v < floatLimit)
    (limitW : n = limitSignificand → k = 75 → w < floatLimit) :
    Usable v ∧ Usable w ↔
      1 / (floatLimit + 2 ^ 74) ≤ (m * 2 ^ e : ℚ) ∧ m * 2 ^ e ≤ floatLimit := by
  have pos : (0 : ℚ) < m * 2 ^ e := mul_pos (Nat.cast_pos.mpr scale.pos) (by positivity)
  have belowV := nearV.lt_floatLimit_iff scale limitV
  have belowW := nearW.lt_floatLimit_iff reciprocal limitW
  rw [nearest.le_floatLimit_iff reciprocal, one_div_le pos (by norm_num [floatLimit])] at belowW
  constructor
  · rintro ⟨usableV, usableW⟩
    exact ⟨belowW.mp usableW.2, belowV.mp usableV.2⟩
  · rintro ⟨lower, upper⟩
    -- each value is at least a third of the reciprocal of an upper bound
    refine ⟨⟨?_, belowV.mpr upper⟩, ?_, belowW.mpr lower⟩
    · have half := nearV.half_le scale.pos
      have least : 1 / 2 ^ 150 < 1 / (floatLimit + 2 ^ 74) / 2 := by norm_num [floatLimit]
      linarith
    · have half := nearW.half_le reciprocal.pos
      have double := nearest.near.le_three_halves reciprocal.pos
      have inverse : 1 / floatLimit ≤ 1 / (m * 2 ^ e : ℚ) := one_div_le_one_div_of_le pos upper
      have least : 1 / 2 ^ 150 < 1 / floatLimit / 3 := by norm_num [floatLimit]
      linarith

end WireSchema.Decimal

namespace WireSchema

open Decimal (Near Nearest Reading Usable floatLimit literalValue?)

/-! ## Valid scales -/

namespace FixedPoint

variable {fixed : FixedPoint}

/-- A valid scale and its reciprocal are positive doubles, and the one is nearest to the exact
    reciprocal of the other. -/
theorem exists_readings (valid : fixed.isValid = true) :
    ∃ m e narrow n k narrow', Reading.ofFloat fixed.scale = .finite false m e narrow ∧
      Reading.ofFloat fixed.reciprocal = .finite false n k narrow' ∧
      Nearest (1 / (m * 2 ^ e) / 2 ^ k) n := by
  simp only [isValid, Bool.and_eq_true, decide_eq_true_eq] at valid
  obtain ⟨⟨positive, finite⟩, finite'⟩ := valid
  obtain ⟨m, e, pos, unpacked⟩ := Decimal.exists_unpack_eq positive finite
  have read := Reading.ofFloat_of_unpack unpacked
  obtain ⟨canonical, fits, -⟩ := Reading.canonical_of_ofFloat read
  obtain ⟨n, k, pos', unpacked', -, nearest⟩ :=
    Decimal.exists_unpack_reciprocal_eq unpacked canonical fits
  have fits' : k ≤ 971 := by
    by_contra large
    rw [if_neg large] at unpacked'
    have infinite : fixed.reciprocal.isFinite = false := by
      change Float.Model.UnpackedFloat.isFinite fixed.reciprocal.toModel.unpack = false
      rw [reciprocal, unpacked']
      rfl
    rw [infinite] at finite'
    cases finite'
  rw [if_pos fits'] at unpacked'
  exact ⟨m, e, _, n, k, _, read, Reading.ofFloat_of_unpack unpacked', nearest⟩

theorem literals_usable_iff (valid : fixed.isValid = true) :
    ∃ scale v w, (Reading.ofFloat fixed.scale).value? = some scale ∧
      literalValue? (Output.floatLiteral fixed.scale) = some v ∧
      literalValue? (Output.floatLiteral fixed.reciprocal) = some w ∧
      (Usable v ∧ Usable w ↔ 1 / (floatLimit + 2 ^ 74) ≤ scale ∧ scale ≤ floatLimit) := by
  obtain ⟨m, e, _, n, k, _, read, read', nearest⟩ := exists_readings valid
  obtain ⟨v, value, near, limit⟩ := Decimal.exists_literalValue_eq read
  obtain ⟨w, value', near', limit'⟩ := Decimal.exists_literalValue_eq read'
  refine ⟨m * 2 ^ e, v, w, ?_, value, value', Decimal.usable_iff
    (Reading.canonical_of_ofFloat read).1 (Reading.canonical_of_ofFloat read').1 nearest near near'
    limit limit'⟩
  rw [read]
  simp [Reading.value?]

end FixedPoint

/-! ## The literals of a class -/

/-- The factors that a class has for a scaled field are literals with exact values.  Both are
    rounded to a `float` other than zero and infinity exactly if the scale is in a range that is
    smaller than that of the scales that are admitted. -/
theorem scale_literals_usable_iff {scope : Scope} {banner viewpoint text : String}
    {struct : StructDecl} {position : Nat} {field : Field} {fixed : FixedPoint}
    (generated : (scope.structSource banner viewpoint struct).outcome = .ok text)
    (here : struct.fields[position]? = some field) (scaled : field.fixedPoint = some fixed) :
    ∃ layout line setter getter,
      scope.structLayout viewpoint struct = .ok layout ∧ text = layout.source banner viewpoint ∧
      layout.fields[position]? = some line ∧ line.factors = some (setter, getter) ∧
      ∃ scale v w, (Reading.ofFloat fixed.scale).value? = some scale ∧
        literalValue? getter = some v ∧ literalValue? setter = some w ∧
        (Usable v ∧ Usable w ↔ 1 / (floatLimit + 2 ^ 74) ≤ scale ∧ scale ≤ floatLimit) := by
  obtain ⟨fields, declared, admitted, rfl⟩ := structSource_outcome_ok.mp generated
  rw [← declared, List.getElem?_map, Option.map_eq_some_iff] at here
  obtain ⟨bound, here, rfl⟩ := here
  have valid := (Field.checkScale_eq_ok.mp (admitted bound (List.mem_of_getElem? here)).scale
    fixed scaled).2.2
  refine ⟨⟨struct.name, fields.map Output.BoundField.layout⟩, bound.layout, _, _,
    Scope.structLayout_eq declared admitted, Output.source_structClass .., ?_, ?_,
    FixedPoint.literals_usable_iff valid⟩
  · rw [List.getElem?_map, here, Option.map_some]
  · rw [Output.BoundField.layout, scaled, Option.map_some]

namespace Sample

/-- Gold that is counted in units of the given scale. -/
def hoard (scale : Float) : StructDecl := ⟨"Hoard", [gold.scaledBy scale], .blank⟩

end Sample

open Sample in
/-- A hoard whose gold has the scale `1e39` is generated, and its literals are not both usable. -/
theorem scale_literals_usable_iff_hoard :
    ∃ text layout line setter getter v w,
      ((Scope.global [] "javaPackage").structSource "" "game" (hoard 1e39)).outcome = .ok text ∧
      text = Output.StructLayout.source "" "game" layout ∧
      layout.fields[0]? = some line ∧ line.factors = some (setter, getter) ∧
      literalValue? getter = some v ∧ literalValue? setter = some w ∧
      ¬ (Usable v ∧ Usable w) := by
  have valid : (FixedPoint.mk 1e39).isValid = true := by decide +kernel
  have read : Reading.ofFloat 1e39 = .finite false 6617444900424221 77 false := by decide +kernel
  obtain ⟨binding, bound⟩ : ∃ binding, ((Scope.global [] "javaPackage").bind "game"
      (gold.scaledBy 1e39)).outcome = .ok binding := ⟨_, rfl⟩
  have scale : (gold.scaledBy 1e39).checkScale = .ok () :=
    Field.checkScale_eq_ok.mpr fun _ scaled => ⟨rfl, rfl, Option.some.inj scaled ▸ valid⟩
  obtain ⟨text, generated⟩ : ∃ text, ((Scope.global [] "javaPackage").structSource "" "game"
      (hoard 1e39)).outcome = .ok text :=
    ⟨_, structSource_outcome_ok.mpr ⟨[⟨gold.scaledBy 1e39, binding⟩], rfl,
      by simpa using ⟨scale, Scope.bind_outcome_ok.mp bound⟩, rfl⟩⟩
  have here : (hoard 1e39).fields[0]? = some (gold.scaledBy 1e39) := rfl
  obtain ⟨layout, line, setter, getter, -, spelled, line_eq, factors, value, v, w, exactly, got,
    put, usable⟩ := scale_literals_usable_iff generated here rfl
  refine ⟨text, layout, line, setter, getter, v, w, generated, spelled, line_eq, factors, got, put,
    fun both => ?_⟩
  rw [read] at exactly
  cases exactly
  have small := (usable.mp both).2
  norm_num [floatLimit] at small

end WireSchema
