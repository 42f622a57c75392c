import WireSchema.Proofs.SourceLines

/-! # Constants in a source

The constants of an enum are read from its source as a compiler reads them: names with commas in
between, up to a semicolon.  Line breaks and blanks do not count.

* `ConstantEntry` — a constant with the mark after it.
* `ReadsConstants` — what a text starts with, and what is left of it behind the semicolon.
* `ReadsConstants.unique` — a text is read in one way only.
* `readsConstants_constantLines` — the lines of the constants are read as the constants.
-/

namespace WireSchema

open Output (EnumClass indent joinLines)

/-! ## Reading -/

/-- The characters that may stand between names and marks. -/
def isSpace (c : Char) : Bool :=
  c == ' ' || c == '\t' || c == '\n' || c == '\x0C' || c == '\r'

/-- A name and the mark after it, with spaces around the name. -/
structure ConstantEntry (text : List Char) (name : String) (mark : Char) (rest : List Char) :
    Prop where
  identifier : IsIdentifier name
  spaced : ∃ before after, (∀ c ∈ before, isSpace c = true) ∧ (∀ c ∈ after, isSpace c = true) ∧
    text = before ++ (name.toList ++ (after ++ mark :: rest))

/-- The text starts with the given constants, and `rest` is left behind the semicolon.  The last
    constant may have a comma of its own. -/
inductive ReadsConstants : List Char → List String → List Char → Prop where
  | done {text spaces rest : List Char} : (∀ c ∈ spaces, isSpace c = true) →
      text = spaces ++ ';' :: rest → ReadsConstants text [] rest
  | last {text rest : List Char} {name : String} : ConstantEntry text name ';' rest →
      ReadsConstants text [name] rest
  | more {text next rest : List Char} {name : String} {names : List String} :
      ConstantEntry text name ',' next → ReadsConstants next names rest →
      ReadsConstants text (name :: names) rest

/-! ## One way to read -/

/-- A text is cut in one way after the characters of one sort that it starts with. -/
theorem append_inj_of_all {α : Type} {p : α → Bool} {front front' back back' : List α}
    (all : ∀ a ∈ front, p a = true) (all' : ∀ a ∈ front', p a = true)
    (stops : ∀ a ∈ back.head?, p a = false) (stops' : ∀ a ∈ back'.head?, p a = false)
    (same : front ++ back = front' ++ back') : front = front' ∧ back = back' := by
  induction front generalizing front' with
  | nil =>
    cases front' with
    | nil => exact ⟨rfl, same⟩
    | cons a front' =>
      obtain rfl : back = a :: (front' ++ back') := same
      cases (all' a List.mem_cons_self).symm.trans (stops a rfl)
  | cons a front inductionHypothesis =>
    cases front' with
    | nil =>
      obtain rfl : a :: (front ++ back) = back' := same
      cases (all a List.mem_cons_self).symm.trans (stops' a rfl)
    | cons b front' =>
      rw [List.forall_mem_cons] at all all'
      rw [List.cons_append, List.cons_append, List.cons.injEq] at same
      obtain ⟨rfl, same⟩ := same
      obtain ⟨rfl, rest⟩ := inductionHypothesis all.2 all'.2 same
      exact ⟨rfl, rest⟩

theorem isSpace_of_isNamePart {c : Char} (part : isNamePart c = true) : isSpace c = false := by
  rw [← Bool.not_eq_true]
  intro space
  simp only [isSpace, Bool.or_eq_true, beq_iff_eq] at space
  rcases space with (((rfl | rfl) | rfl) | rfl) | rfl <;> revert part <;> decide

theorem isNamePart_of_isSpace {c : Char} (space : isSpace c = true) : isNamePart c = false := by
  rw [← Bool.not_eq_true]
  intro part
  rw [isSpace_of_isNamePart part] at space
  cases space

/-- An identifier starts with one of its characters. -/
theorem IsIdentifier.exists_cons {name : String} (identifier : IsIdentifier name) :
    ∃ c rest, name.toList = c :: rest ∧ isNamePart c = true := by
  obtain ⟨c, first, _⟩ := identifier.start
  obtain ⟨rest, split⟩ := List.head?_eq_some_iff.mp first
  exact ⟨c, rest, split, identifier.part c (by rw [split]; exact List.mem_cons_self)⟩

/-- A comma or a semicolon: no space, and no part of a name. -/
def IsMark (c : Char) : Prop := c = ',' ∨ c = ';'

theorem IsMark.isSpace {c : Char} (mark : IsMark c) : isSpace c = false := by
  rcases mark with rfl | rfl <;> decide

theorem IsMark.isNamePart {c : Char} (mark : IsMark c) : isNamePart c = false := by
  rcases mark with rfl | rfl <;> decide

namespace ConstantEntry

variable {text rest rest' : List Char} {name name' : String} {mark mark' : Char}

/-- The name of an entry stops where spaces or the mark start. -/
theorem stops (isMark : IsMark mark) {after : List Char} (spaces : ∀ c ∈ after, isSpace c = true) :
    ∀ c ∈ (after ++ mark :: rest).head?, isNamePart c = false := by
  intro c first
  cases after with
  | nil =>
    cases first
    exact isMark.isNamePart
  | cons d after =>
    cases first
    exact isNamePart_of_isSpace (spaces c List.mem_cons_self)

theorem unique (entry : ConstantEntry text name mark rest) (isMark : IsMark mark)
    (entry' : ConstantEntry text name' mark' rest') (isMark' : IsMark mark') :
    name = name' ∧ mark = mark' ∧ rest = rest' := by
  obtain ⟨before, after, spaces, spacesAfter, rfl⟩ := entry.spaced
  obtain ⟨before', after', spaces', spacesAfter', same⟩ := entry'.spaced
  have solid {name : String} {more : List Char} (identifier : IsIdentifier name) :
      ∀ c ∈ (name.toList ++ more).head?, isSpace c = false := by
    obtain ⟨c, letters, split, part⟩ := identifier.exists_cons
    rw [split]
    rintro _ ⟨⟩
    exact isSpace_of_isNamePart part
  -- spaces, the name, and spaces again
  obtain ⟨_, same⟩ :=
    append_inj_of_all spaces spaces' (solid entry.identifier) (solid entry'.identifier) same
  obtain ⟨names, same⟩ := append_inj_of_all entry.identifier.part entry'.identifier.part
    (stops isMark spacesAfter) (stops isMark' spacesAfter') same
  obtain ⟨_, same⟩ := append_inj_of_all spacesAfter spacesAfter'
    (by rintro _ ⟨⟩; exact isMark.isSpace) (by rintro _ ⟨⟩; exact isMark'.isSpace) same
  exact ⟨String.toList_inj.mp names, List.cons.inj same⟩

/-- Where a constant follows, the list is not done. -/
theorem not_done (entry : ConstantEntry text name mark rest) {spaces : List Char}
    (all : ∀ c ∈ spaces, isSpace c = true) : text ≠ spaces ++ ';' :: rest' := by
  intro done
  obtain ⟨before, after, spacesBefore, _, rfl⟩ := entry.spaced
  obtain ⟨c, letters, split, part⟩ := entry.identifier.exists_cons
  rw [split] at done
  obtain ⟨_, same⟩ := append_inj_of_all spacesBefore all
    (by rintro _ ⟨⟩; exact isSpace_of_isNamePart part) (by rintro _ ⟨⟩; decide) done
  cases same
  revert part
  decide

end ConstantEntry

/-- A text is read in one way only. -/
theorem ReadsConstants.unique {text rest rest' : List Char} {names names' : List String}
    (reads : ReadsConstants text names rest) (reads' : ReadsConstants text names' rest') :
    names = names' ∧ rest = rest' := by
  induction reads generalizing names' with
  | done spaces split =>
    cases reads' with
    | done spaces' split' =>
      obtain ⟨_, same⟩ := append_inj_of_all spaces spaces' (by rintro _ ⟨⟩; decide)
        (by rintro _ ⟨⟩; decide) (split.symm.trans split')
      exact ⟨rfl, (List.cons.inj same).2⟩
    | last entry' => exact absurd split (entry'.not_done spaces)
    | more entry' => exact absurd split (entry'.not_done spaces)
  | last entry =>
    cases reads' with
    | done spaces' split' => exact absurd split' (entry.not_done spaces')
    | last entry' =>
      obtain ⟨rfl, _, rfl⟩ := entry.unique (.inr rfl) entry' (.inr rfl)
      exact ⟨rfl, rfl⟩
    | more entry' => exact absurd (entry.unique (.inr rfl) entry' (.inl rfl)).2.1 (by decide)
  | more entry _ inductionHypothesis =>
    cases reads' with
    | done spaces' split' => exact absurd split' (entry.not_done spaces')
    | last entry' => exact absurd (entry.unique (.inl rfl) entry' (.inr rfl)).2.1 (by decide)
    | more entry' others =>
      obtain ⟨rfl, _, rfl⟩ := entry.unique (.inl rfl) entry' (.inl rfl)
      obtain ⟨rfl, rfl⟩ := inductionHypothesis others
      exact ⟨rfl, rfl⟩

/-! ## Written constants -/

/-- What stands between a line and the constant on the next one. -/
theorem isSpace_indent : ∀ c ∈ '\n' :: List.replicate 4 ' ', isSpace c = true :=
  List.all_eq_true.mp (by decide)

theorem constantEntry_line {name : String} (identifier : IsIdentifier name) (mark : Char)
    (rest : List Char) :
    ConstantEntry ('\n' :: ((indent 1 name).toList ++ mark :: rest)) name mark rest := by
  refine ⟨identifier, '\n' :: List.replicate 4 ' ', [], isSpace_indent, by simp, ?_⟩
  simp [indent]

/-- From the end of the line in front, the lines of constants are read as the constants. -/
theorem readsConstants_constantLines {constants : List String}
    (plain : ∀ constant ∈ constants, IsIdentifier constant) (rest : List Char) :
    ReadsConstants ('\n' :: ((joinLines (EnumClass.constantLines constants)).toList ++ rest))
      constants ('\n' :: rest) := by
  induction constants with
  | nil =>
    refine .done isSpace_indent ?_
    simp [EnumClass.constantLines, joinLines, indent]
  | cons constant constants inductionHypothesis =>
    rw [List.forall_mem_cons] at plain
    cases constants with
    | nil =>
      have here := constantEntry_line plain.1 ';' ('\n' :: rest)
      exact .last (by simpa [EnumClass.constantLines, joinLines, indent] using here)
    | cons next constants =>
      have here := constantEntry_line plain.1 ','
        ('\n' :: ((joinLines (EnumClass.constantLines (next :: constants))).toList ++ rest))
      refine .more ?_ (inductionHypothesis plain.2)
      simpa [EnumClass.constantLines, joinLines_cons, indent] using here

end WireSchema
