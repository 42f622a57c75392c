/-! # Blank characters and lines

The white space of comments and annotations is the Unicode property `White_Space`.

* `isBlank` tells its members apart.
* `trimStart` and `trim` cut blank characters off the ends of a text.
* `lines` cuts a text into its lines.  A line ends at a line feed; a carriage return
  directly before that line feed belongs to the terminator, any other one to the line.
-/

namespace WireSchema.Text

/-! ## White space -/

/-- Membership in the Unicode property `White_Space`. -/
def isBlank (c : Char) : Bool :=
  let n := c.toNat
  (0x09 ≤ n && n ≤ 0x0D) || n == 0x20 || n == 0x85 || n == 0xA0 || n == 0x1680 ||
    (0x2000 ≤ n && n ≤ 0x200A) || n == 0x2028 || n == 0x2029 || n == 0x202F ||
    n == 0x205F || n == 0x3000

/-- Every white space character of the ASCII range is blank. -/
theorem isBlank_of_isWhitespace {c : Char} (h : c.isWhitespace = true) : isBlank c = true := by
  simp only [Char.isWhitespace, Bool.or_eq_true, decide_eq_true_eq] at h
  rcases h with ((rfl | rfl) | rfl) | rfl <;> rfl

/-! ## Trimming -/

/-- Drops the blank characters that a text starts with. -/
def trimStart (cs : List Char) : List Char :=
  cs.dropWhile isBlank

/-- Drops the blank characters that a text ends with. -/
def trimEnd (cs : List Char) : List Char :=
  (cs.reverse.dropWhile isBlank).reverse

/-- Drops the blank characters at both ends of a text. -/
def trim (cs : List Char) : List Char :=
  trimEnd (trimStart cs)

/-! ## Lines -/

/-- The lines of a text, without their terminators.  A text that ends in a terminator has no
    further empty line after it, and the empty text has no line at all. -/
def lines : List Char → List (List Char)
  | [] => []
  | '\n' :: rest => [] :: lines rest
  | '\r' :: '\n' :: rest => [] :: lines rest
  | c :: rest =>
    match lines rest with
    | [] => [[c]]
    | line :: more => (c :: line) :: more

/-- What is left of `cs` after the text `lead`, if it starts with it. -/
def after? : (lead cs : List Char) → Option (List Char)
  | [], cs => some cs
  | _ :: _, [] => none
  | l :: lead, c :: cs => if l = c then after? lead cs else none

/-- `after?` undoes putting a text in front. -/
theorem after?_eq_some_iff {lead cs rest : List Char} :
    after? lead cs = some rest ↔ cs = lead ++ rest := by
  induction lead generalizing cs with
  | nil => simp [after?, eq_comm]
  | cons l lead ih =>
    cases cs with
    | nil => simp [after?]
    | cons c cs =>
      by_cases h : l = c
      · simp [after?, h, ih]
      · simp [after?, h, Ne.symm h]

/-- The pieces between the occurrences of `separator`, empty ones included: one more piece
    than there are occurrences. -/
def splitAt (separator : Char) : List Char → List (List Char)
  | [] => [[]]
  | c :: cs =>
    if c = separator then [] :: splitAt separator cs
    else
      match splitAt separator cs with
      | [] => [[c]]
      | piece :: more => (c :: piece) :: more

theorem splitAt_ne_nil (separator : Char) (cs : List Char) : splitAt separator cs ≠ [] := by
  cases cs with
  | nil => simp [splitAt]
  | cons c cs =>
    simp only [splitAt]
    split
    · simp
    · split <;> simp

end WireSchema.Text
