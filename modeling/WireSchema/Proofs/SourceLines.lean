import WireSchema.Proofs.FieldChecks
import WireSchema.Proofs.Lookups

/-! # Lines of sources

A source is one text, and its lines can be told apart in it as long as none of them has a break
inside.  What a line is made of has none: numbers, factors, and names that are identifiers.

* `Unbroken` — a text without a line break, and `joinLines_inj` — the lines that a text is made of.
* `unbroken_repr` and `unbroken_floatLiteral` — numbers and factors have no breaks.
* `IsIdentifier` and `IsQualifiedName` — the names of the generated source.
-/

namespace WireSchema

open Output (floatLiteral indent joinLines)

/-! ## Texts without breaks -/

/-- A text without a line break. -/
def Unbroken (text : String) : Prop := '\n' ∉ text.toList

instance : DecidablePred Unbroken :=
  fun text => inferInstanceAs (Decidable ('\n' ∉ text.toList))

@[simp] theorem unbroken_append {front back : String} :
    Unbroken (front ++ back) ↔ Unbroken front ∧ Unbroken back := by
  simp [Unbroken, not_or]

@[simp] theorem unbroken_ofList {cs : List Char} : Unbroken (String.ofList cs) ↔ '\n' ∉ cs := by
  simp [Unbroken]

@[simp] theorem unbroken_indent {levels : Nat} {line : String} :
    Unbroken (indent levels line) ↔ Unbroken line := by
  simp [indent, List.mem_replicate]

theorem indent_inj {levels : Nat} {line other : String} :
    indent levels line = indent levels other ↔ line = other :=
  String.append_right_inj _

/-- Lines without breaks are what a text is made of in one way only. -/
theorem joinLines_inj {lines others : List String} (unbroken : ∀ line ∈ lines, Unbroken line)
    (unbroken' : ∀ line ∈ others, Unbroken line) :
    joinLines lines = joinLines others ↔ lines = others := by
  refine ⟨fun same => ?_, congrArg joinLines⟩
  have toList (line : String) (rest : List String) : (joinLines (line :: rest)).toList =
      line.toList ++ '\n' :: (joinLines rest).toList := by
    simp [joinLines_cons]
  have apart (line : String) (rest : List String) : joinLines (line :: rest) ≠ joinLines [] := by
    intro empty
    have none : line.toList ++ '\n' :: (joinLines rest).toList = [] := by
      rw [← toList, empty]
      rfl
    simp at none
  induction lines generalizing others with
  | nil =>
    cases others with
    | nil => rfl
    | cons other others => exact absurd same.symm (apart other others)
  | cons line lines inductionHypothesis =>
    cases others with
    | nil => exact absurd same (apart line lines)
    | cons other others =>
      rw [List.forall_mem_cons] at unbroken unbroken'
      rw [← String.toList_inj, toList, toList,
        append_cons_inj_of_first unbroken.1 unbroken'.1, String.toList_inj,
        String.toList_inj] at same
      rw [same.1, inductionHypothesis unbroken.2 unbroken'.2 same.2]

/-! ## Numbers -/

theorem toList_repr (n : Nat) : n.repr.toList = Nat.toDigits 10 n := by
  rw [← Nat.toString_eq_repr, Nat.toString_eq_ofList_toDigits, String.toList_ofList]

theorem repr_inj {m n : Nat} : m.repr = n.repr ↔ m = n := by
  refine ⟨fun same => ?_, congrArg Nat.repr⟩
  rw [← String.toList_inj, toList_repr, toList_repr] at same
  rw [← Nat.ofDigitChars_toDigits (b := 10) (n := m) (by decide) (by decide), same,
    Nat.ofDigitChars_toDigits (by decide) (by decide)]

theorem newline_not_mem_toDigits (n : Nat) : '\n' ∉ Nat.toDigits 10 n := by
  intro member
  have digit := Nat.isDigit_of_mem_toDigits (by decide) (by decide) member
  revert digit
  decide

@[simp] theorem unbroken_repr (n : Nat) : Unbroken n.repr := by
  rw [Unbroken, toList_repr]
  exact newline_not_mem_toDigits n

namespace Decimal.Layout

theorem newline_not_mem_writePositional (layout : Layout) {digits : List Char} (position : Int)
    (unbroken : '\n' ∉ digits) : '\n' ∉ layout.writePositional digits position := by
  have wholeEnd : '\n' ∉ layout.wholeEnd := by
    unfold Layout.wholeEnd
    split <;> decide
  unfold writePositional
  split
  · simp [unbroken, List.mem_replicate]
  · split
    · simp [unbroken, wholeEnd, List.mem_replicate]
    · simp [mt List.mem_of_mem_take unbroken, mt List.mem_of_mem_drop unbroken]

end Decimal.Layout

/-- The text of a factor is a single line. -/
@[simp] theorem unbroken_floatLiteral (x : Float) : Unbroken (floatLiteral x) := by
  have signed {cs : List Char} (negative : Bool) (unbroken : '\n' ∉ cs) :
      Unbroken (String.ofList (Decimal.Layout.signed negative cs)) := by
    rw [unbroken_ofList, Decimal.Layout.signed]
    split
    · simpa using unbroken
    · exact unbroken
  refine unbroken_append.mpr ⟨?_, by decide⟩
  unfold Decimal.Layout.format
  split
  · decide
  · exact signed _ (by decide)
  · exact signed _ (by decide)
  · -- a factor is written without an exponent, whatever its size
    exact signed _ (scaleLayout.newline_not_mem_writePositional _ (newline_not_mem_toDigits _))

/-! ## Names -/

/-- The characters that an identifier may have.  Beyond ASCII, where the alphabet of the generated
    source is a matter of the Unicode standard, none is ruled out. -/
def isNamePart (c : Char) : Bool :=
  c.isAlphanum || c == '_' || c == '$' || c.toNat ≤ 0x08 ||
    (0x0E ≤ c.toNat && c.toNat ≤ 0x1B) || 0x7F ≤ c.toNat

/-- An identifier of the generated source, which starts with no digit. -/
structure IsIdentifier (name : String) : Prop where
  start : ∃ c ∈ name.toList.head?, c.isDigit = false
  part : ∀ c ∈ name.toList, isNamePart c = true

instance : DecidablePred IsIdentifier := fun name =>
  decidable_of_iff
    (name.toList.head?.any (!·.isDigit) = true ∧ name.toList.all isNamePart = true) <| by
      simp only [Option.any_eq_true, List.all_eq_true, Bool.not_eq_true']
      exact ⟨fun ⟨start, part⟩ => ⟨start, part⟩, fun ⟨start, part⟩ => ⟨start, part⟩⟩

/-- Identifiers with dots in between. -/
inductive IsQualifiedName : String → Prop where
  | simple {name : String} : IsIdentifier name → IsQualifiedName name
  | dotted {name rest : String} : IsIdentifier name → IsQualifiedName rest →
      IsQualifiedName (name ++ "." ++ rest)

theorem IsIdentifier.not_mem {name : String} {c : Char} (identifier : IsIdentifier name)
    (other : isNamePart c = false) : c ∉ name.toList := by
  intro member
  rw [identifier.part c member] at other
  cases other

theorem IsIdentifier.unbroken {name : String} (identifier : IsIdentifier name) : Unbroken name :=
  identifier.not_mem (by decide)

theorem IsQualifiedName.unbroken {name : String} (qualified : IsQualifiedName name) :
    Unbroken name := by
  induction qualified with
  | simple identifier => exact identifier.unbroken
  | dotted identifier _ inductionHypothesis =>
    simp only [unbroken_append]
    exact ⟨⟨identifier.unbroken, by decide⟩, inductionHypothesis⟩

namespace Text

theorem ofNat_ne_newline {n : Nat} (above : 10 < n) : Char.ofNat n ≠ '\n' := by
  intro same
  by_cases valid : n.isValidChar
  · have code : Char.ofNat n = Char.ofNatAux n valid := dif_pos valid
    have ten : n = 10 := congrArg Char.toNat (code.symm.trans same)
    omega
  · have code : Char.ofNat n = Char.ofNat 0 := dif_neg valid
    rw [code] at same
    revert same
    decide

/-- No character but the line break itself has one in its upper case. -/
theorem newline_not_mem_upper {c : Char} (other : c ≠ '\n') : '\n' ∉ upper c := by
  have sequences : ∀ entry ∈ upperSequences, '\n' ∉ entry.2.map Char.ofNat := by decide +kernel
  have ranges : ∀ range ∈ upperRanges, 10 < range.first + range.shift := by decide +kernel
  unfold upper
  split
  · next sequence found =>
    obtain ⟨before, after, table, _⟩ := List.lookup_eq_some_iff.mp found
    exact sequences (c.toNat, sequence) (by rw [table]; simp)
  · split
    · next range found =>
      have shifted := ranges range (List.mem_of_find?_eq_some found)
      have inside := List.find?_some found
      simp only [CaseRange.contains, Bool.and_eq_true, decide_eq_true_eq] at inside
      rw [List.mem_singleton]
      exact Ne.symm (ofNat_ne_newline (by omega))
    · simpa using Ne.symm other

theorem unbroken_capitalize {text : String} (unbroken : Unbroken text) :
    Unbroken (capitalize text) := by
  unfold capitalize
  unfold Unbroken at unbroken
  split
  · decide
  · next c rest split =>
    rw [split, List.mem_cons, not_or] at unbroken
    rw [unbroken_ofList, List.mem_append, not_or]
    exact ⟨newline_not_mem_upper (Ne.symm unbroken.1), unbroken.2⟩

end Text

end WireSchema
