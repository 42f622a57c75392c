import Mathlib.Data.List.DropRight
import WireSchema.Schema.Annotation

/-! # Annotations line by line

An annotation is a line of a comment.  The lines are described here without a reader, by the text
that they spell, and so is what a line says about an annotation.

* `Text.Spells` — a text made of lines, each with a terminator of either form, which the last line
  may lack.
* `Text.Trims` — a text without the blank characters at its ends.
* `Carries`, `FirstCarried` — the value that a line, and a list of lines, gives to an annotation.
* `first_annotated_line_decides` — the first line that carries the annotation gives its value, and
  nothing else of the comment has a say in the namespace.
-/

namespace WireSchema

namespace Text

/-! ## Lines -/

/-- What ends a line. -/
inductive Terminator where
  | feed
  | returnFeed

def Terminator.text : Terminator → List Char
  | feed => ['\n']
  | returnFeed => ['\r', '\n']

/-- A line has no terminator inside, and no carriage return at its end, where it would become part
    of the terminator. -/
structure IsLine (line : List Char) : Prop where
  noFeed : '\n' ∉ line
  noReturn : line.getLast? ≠ some '\r'

/-- The lines, one after the other, are the text.  Each has its own terminator, but the last one
    may have none. -/
inductive Spells : List (List Char) → List Char → Prop where
  | nothing : Spells [] []
  | open (line : List Char) : Spells [line] line
  | ended (line : List Char) (terminator : Terminator) {more : List (List Char)}
      {rest : List Char} : Spells more rest →
      Spells (line :: more) (line ++ terminator.text ++ rest)

theorem IsLine.tail {c : Char} {line : List Char} (isLine : IsLine (c :: line)) : IsLine line := by
  refine ⟨fun feed => isLine.noFeed (List.mem_cons_of_mem c feed), fun last => isLine.noReturn ?_⟩
  rw [List.getLast?_cons, last, Option.getD_some]

/-- A character that starts no terminator belongs to the first line. -/
theorem lines_cons {c : Char} {rest : List Char} (noFeed : c ≠ '\n')
    (noReturn : c = '\r' → rest.head? ≠ some '\n') :
    lines (c :: rest) = (c :: (lines rest).headD []) :: (lines rest).tail := by
  rw [lines]
  · cases lines rest <;> rfl
  · exact noFeed
  · rintro tail rfl rfl
    exact noReturn rfl rfl

theorem IsLine.lines_cons {c : Char} {line : List Char} (isLine : IsLine (c :: line))
    (rest : List Char) :
    lines (c :: (line ++ rest)) =
      (c :: (lines (line ++ rest)).headD []) :: (lines (line ++ rest)).tail := by
  apply Text.lines_cons
  · rintro rfl
    exact isLine.noFeed List.mem_cons_self
  · rintro rfl
    -- a return at the end is excluded, and what follows it inside is no feed
    cases line with
    | nil => exact absurd rfl isLine.noReturn
    | cons d line =>
      rintro ⟨⟩
      exact isLine.noFeed (by simp)

theorem lines_ended {line : List Char} (isLine : IsLine line) (terminator : Terminator)
    (rest : List Char) : lines (line ++ terminator.text ++ rest) = line :: lines rest := by
  rw [List.append_assoc]
  induction line with
  | nil => cases terminator <;> rfl
  | cons c line inductionHypothesis =>
    rw [List.cons_append, isLine.lines_cons, inductionHypothesis isLine.tail]
    rfl

theorem lines_open {line : List Char} (noFeed : '\n' ∉ line) (some : line ≠ []) :
    lines line = [line] := by
  induction line with
  | nil => exact absurd rfl some
  | cons c line inductionHypothesis =>
    rw [List.mem_cons, not_or] at noFeed
    have inside : c = '\r' → line.head? ≠ Option.some '\n' :=
      fun _ feed => noFeed.2 (List.mem_of_head? feed)
    rw [lines_cons (Ne.symm noFeed.1) inside]
    cases line with
    | nil => rfl
    | cons d line => rw [inductionHypothesis noFeed.2 (by simp)]; rfl

/-- The lines of a text are those that spell it, but for an empty one at the end without a
    terminator, which leaves no trace in the text. -/
theorem lines_of_spells {list : List (List Char)} {text : List Char} (spelled : Spells list text)
    (isLine : ∀ line ∈ list, IsLine line) : lines text = list ∨ lines text ++ [[]] = list := by
  induction spelled with
  | nothing => exact .inl rfl
  | «open» line =>
    by_cases empty : line = []
    · subst empty
      exact .inr rfl
    · exact .inl (lines_open (isLine line List.mem_cons_self).noFeed empty)
  | ended line terminator _ inductionHypothesis =>
    rw [lines_ended (isLine line List.mem_cons_self)]
    rcases inductionHypothesis fun other member => isLine other (List.mem_cons_of_mem _ member) with
      same | short
    · rw [same]
      exact .inl rfl
    · rw [List.cons_append, short]
      exact .inr rfl

/-! ## Blank ends -/

def Blank (cs : List Char) : Prop :=
  ∀ c ∈ cs, isBlank c = true

/-- The core is what is left of a text without the blank characters at its ends. -/
structure Trims (cs core : List Char) : Prop where
  split : ∃ front back, cs = front ++ core ++ back ∧ Blank front ∧ Blank back
  head : ∀ c ∈ core.head?, isBlank c = false
  last : ∀ c ∈ core.getLast?, isBlank c = false

theorem head?_dropWhile_isBlank {cs : List Char} {c : Char}
    (first : c ∈ (cs.dropWhile isBlank).head?) : isBlank c = false := by
  have stops := List.head?_dropWhile_not isBlank cs
  rw [Option.mem_def.mp first] at stops
  exact stops

theorem trimStart_append {indent rest : List Char} (blank : Blank indent)
    (starts : ∀ c ∈ rest.head?, isBlank c = false) : trimStart (indent ++ rest) = rest := by
  rw [trimStart, List.dropWhile_append_of_pos blank]
  cases rest with
  | nil => rfl
  | cons c rest => rw [List.dropWhile_cons_of_neg (by simp [starts c rfl])]

theorem blank_takeWhile (cs : List Char) : Blank (cs.takeWhile isBlank) :=
  fun _ member => List.mem_takeWhile_imp member

theorem trims_trim (cs : List Char) : Trims cs (trim cs) := by
  have cut : trim cs = (cs.dropWhile isBlank).rdropWhile isBlank := rfl
  have whole : trim cs ++ (cs.dropWhile isBlank).rtakeWhile isBlank = cs.dropWhile isBlank := by
    rw [cut, List.rdropWhile_append_rtakeWhile]
  refine ⟨⟨cs.takeWhile isBlank, (cs.dropWhile isBlank).rtakeWhile isBlank, ?_,
    blank_takeWhile cs, fun _ member => List.mem_rtakeWhile_imp member⟩, ?_, ?_⟩
  · rw [List.append_assoc, whole, List.takeWhile_append_dropWhile]
  · intro c first
    have first' : c ∈ (cs.dropWhile isBlank).head? := by
      rw [← whole, List.head?_append, Option.mem_def.mp first]
      rfl
    exact head?_dropWhile_isBlank first'
  · intro c last
    rw [cut] at last
    obtain ⟨some, rfl⟩ := List.mem_getLast?_eq_getLast last
    simpa using List.rdropWhile_last_not isBlank _ some

theorem Trims.eq_nil {cs core : List Char} (trims : Trims cs core) (blank : Blank cs) :
    core = [] := by
  obtain ⟨front, back, rfl, _, _⟩ := trims.split
  cases core with
  | nil => rfl
  | cons c core =>
    have solid := trims.head c rfl
    rw [blank c (by simp)] at solid
    cases solid

end Text

/-! ## Annotated lines -/

open Text (Blank IsLine Spells Trims)

/-- The line gives the value to the annotation `key`: it consists of blank characters, an at sign,
    the key, and nothing else, or a colon and the value, or the value with a blank character at its
    start. -/
inductive Carries (key : List Char) : List Char → List Char → Prop where
  | bare {indent : List Char} : Blank indent → Carries key (indent ++ '@' :: key) []
  | colon {indent value : List Char} : Blank indent →
      Carries key (indent ++ '@' :: (key ++ ':' :: value)) value
  | spaced {indent value : List Char} {c : Char} : Blank indent → Text.isBlank c = true →
      Carries key (indent ++ '@' :: (key ++ c :: value)) (c :: value)

/-- The value stands in the first of the lines that carry the annotation. -/
def FirstCarried (key : List Char) (lines : List (List Char)) (value : List Char) : Prop :=
  ∃ before line after, lines = before ++ line :: after ∧
    (∀ earlier ∈ before, ∀ other, ¬ Carries key earlier other) ∧ Carries key line value

/-- What a namespace becomes under a wanted extension.  A blank one is none. -/
inductive Extends (base : String) : List Char → String → Prop where
  | blank : Extends base [] base
  | alone {extra : List Char} : extra ≠ [] → base = "" → Extends base extra (String.ofList extra)
  | joined {extra : List Char} : extra ≠ [] → base ≠ "" →
      Extends base extra (base ++ "." ++ String.ofList extra)

theorem Extends.eq_base {base result : String} (placed : Extends base [] result) :
    result = base := by
  cases placed with
  | blank => rfl
  | alone some | joined some => exact absurd rfl some

variable {key line value : List Char} {lines : List (List Char)} {comment : Comment}

theorem annotationValue?_eq_some :
    annotationValue? key line = some value ↔ Carries key line value := by
  constructor
  · intro reads
    have whole := List.takeWhile_append_dropWhile (p := Text.isBlank) (l := line)
    have blank := Text.blank_takeWhile line
    unfold annotationValue? at reads
    cases found : Text.after? ('@' :: key) (Text.trimStart line) with
    | none => simp [found] at reads
    | some rest =>
      rw [found] at reads
      -- the line is put together again from its indentation, the key and the rest
      have split := Text.after?_eq_some_iff.mp found
      rw [Text.trimStart] at split
      rw [split] at whole
      rw [← whole]
      cases rest with
      | nil =>
        cases reads
        rw [List.append_nil]
        exact .bare blank
      | cons c rest =>
        dsimp only at reads
        split at reads
        · next colon =>
          cases reads
          subst colon
          exact .colon blank
        · split at reads
          · next space =>
            cases reads
            exact .spaced blank space
          · cases reads
  · have opens {indent : List Char} (blank : Blank indent) (rest : List Char) :
        Text.after? ('@' :: key) (Text.trimStart (indent ++ '@' :: (key ++ rest))) = some rest := by
      rw [Text.trimStart_append blank (by rintro _ ⟨⟩; decide), Text.after?_eq_some_iff]
      rfl
    intro carries
    unfold annotationValue?
    cases carries with
    | bare blank =>
      have found := opens blank []
      rw [List.append_nil] at found
      rw [found]
    | colon blank =>
      rw [opens blank _]
      rfl
    | spaced blank space =>
      rw [opens blank _]
      dsimp only
      rw [if_pos space]
      split
      · next colon =>
        subst colon
        cases space
      · rfl

theorem annotationValue?_eq_none :
    annotationValue? key line = none ↔ ∀ value, ¬ Carries key line value := by
  simp only [← annotationValue?_eq_some, Option.eq_none_iff_forall_ne_some, ne_eq]

theorem findSome?_annotationValue? :
    lines.findSome? (annotationValue? key) = some value ↔ FirstCarried key lines value := by
  rw [List.findSome?_eq_some_iff]
  constructor
  · rintro ⟨before, line, after, split, reads, passed⟩
    exact ⟨before, line, after, split,
      fun earlier member => annotationValue?_eq_none.mp (passed earlier member),
      annotationValue?_eq_some.mp reads⟩
  · rintro ⟨before, line, after, split, passed, carries⟩
    exact ⟨before, line, after, split, annotationValue?_eq_some.mpr carries,
      fun earlier member => annotationValue?_eq_none.mpr (passed earlier member)⟩

theorem exists_firstCarried (carries : ∃ line ∈ lines, ∃ value, Carries key line value) :
    ∃ value, FirstCarried key lines value := by
  obtain ⟨line, member, value, carries⟩ := carries
  cases found : lines.findSome? (annotationValue? key) with
  | some value => exact ⟨value, findSome?_annotationValue?.mp found⟩
  | none =>
    have passed := List.findSome?_eq_none_iff.mp found line member
    exact absurd carries (annotationValue?_eq_none.mp passed value)

/-- An annotation is read off the lines that a comment is spelled with, whatever ends them. -/
theorem annotation?_eq_some_iff {key value : String}
    (isLine : ∀ line ∈ lines, IsLine line) (spelled : Spells lines comment.leading.toList) :
    comment.annotation? key = some value ↔ FirstCarried key.toList lines value.toList := by
  have same : (Text.lines comment.leading.toList).findSome? (annotationValue? key.toList) =
      lines.findSome? (annotationValue? key.toList) := by
    rcases Text.lines_of_spells spelled isLine with whole | short
    · rw [whole]
    · -- the empty line at the end carries nothing
      rw [← short, List.findSome?_append]
      simp [annotationValue?, Text.trimStart, Text.after?]
  rw [← findSome?_annotationValue?, Comment.annotation?, same, Option.map_eq_some_iff]
  constructor
  · rintro ⟨cs, found, rfl⟩
    rw [found, String.toList_ofList]
  · intro found
    exact ⟨value.toList, found, String.ofList_toList⟩

/-- What a comment says of its namespace, by an annotated line or else at its start. -/
def Comment.States (comment : Comment) (key value : String) : Prop :=
  (comment.annotation? key).or (comment.openingValue? key) = some value

theorem extends_placement {key value : String} (states : comment.States key value) (base : String) :
    Extends base (Text.trim value.toList) (placement key base comment) := by
  unfold placement Comment.namespaceOverride?
  rw [Comment.States] at states
  rw [states]
  dsimp only
  cases trimmed : Text.trim value.toList with
  | nil => exact .blank
  | cons c rest =>
    dsimp only
    by_cases empty : base = ""
    · subst empty
      exact .alone (by simp) rfl
    · rw [if_neg (by simpa using empty)]
      exact .joined (by simp) empty

/-- A comment is read line by line, whatever terminators join the lines and whether the last one
    has one.  The value of an annotation is that of the first line that carries it.  If there is
    such a line, its value without blank ends decides over the namespace of the declaration alone,
    whatever the comment starts with. -/
theorem first_annotated_line_decides (isLine : ∀ line ∈ lines, IsLine line)
    (spelled : Spells lines comment.leading.toList) (key : String) :
    (∀ value, comment.annotation? key = some value ↔
        FirstCarried key.toList lines value.toList) ∧
      ((∃ line ∈ lines, ∃ value, Carries key.toList line value) →
        ∃ value extra, comment.annotation? key = some value ∧ Trims value.toList extra ∧
          ∀ base, Extends base extra (placement key base comment)) := by
  have reads (value : String) : comment.annotation? key = some value ↔
      FirstCarried key.toList lines value.toList := annotation?_eq_some_iff isLine spelled
  refine ⟨reads, fun carries => ?_⟩
  obtain ⟨cs, first⟩ := exists_firstCarried carries
  have found : comment.annotation? key = some (String.ofList cs) := by
    rw [reads, String.toList_ofList]
    exact first
  have states : comment.States key (String.ofList cs) := by
    rw [Comment.States, found, Option.some_or]
  exact ⟨_, _, found, Text.trims_trim _, extends_placement states⟩

namespace Sample

/-- A comment that starts like an annotation, names another one, and then carries one twice. -/
def annotatedLines : List (List Char) :=
  ["javaPackage:bag".toList, "@javaPackages shop".toList, "\u3000@javaPackage: ".toList,
    "@javaPackage item".toList]

def annotated : Comment :=
  .ofLeading ("javaPackage:bag" ++ "\n" ++ ("@javaPackages shop" ++ "\r\n" ++
    ("\u3000@javaPackage: " ++ "\n" ++ "@javaPackage item")))

theorem spells_annotated : Spells annotatedLines annotated.leading.toList := by
  simp only [annotated, Comment.ofLeading, String.toList_append]
  exact .ended _ .feed (.ended _ .returnFeed (.ended _ .feed (.open _)))

end Sample

open Sample in
/-- The first value is blank, and neither the later one nor the start of the comment is asked. -/
theorem first_annotated_line_decides_blank :
    (∀ line ∈ annotatedLines, IsLine line) ∧ Spells annotatedLines annotated.leading.toList ∧
      (∃ line ∈ annotatedLines, ∃ value, Carries "javaPackage".toList line value) ∧
      annotated.annotation? "javaPackage" = some " " ∧
      placement "javaPackage" "game" annotated = "game" := by
  have isLine : ∀ line ∈ annotatedLines, IsLine line := by
    have both : ∀ line ∈ annotatedLines, '\n' ∉ line ∧ line.getLast? ≠ some '\r' := by decide
    exact fun line member => ⟨(both line member).1, (both line member).2⟩
  have carries : Carries "javaPackage".toList "\u3000@javaPackage: ".toList [' '] :=
    @Carries.colon _ ['\u3000'] _ (by simp [Blank, Text.isBlank])
  have listed : ∃ line ∈ annotatedLines, ∃ value, Carries "javaPackage".toList line value :=
    ⟨_, by simp [annotatedLines], _, carries⟩
  obtain ⟨reads, decides⟩ := first_annotated_line_decides isLine spells_annotated "javaPackage"
  have found : annotated.annotation? "javaPackage" = some " " := by
    have passed : ∀ earlier ∈ annotatedLines.take 2,
        annotationValue? "javaPackage".toList earlier = none := by decide
    exact (reads " ").mpr ⟨annotatedLines.take 2, _, annotatedLines.drop 3, rfl,
      fun earlier member => annotationValue?_eq_none.mp (passed earlier member), carries⟩
  obtain ⟨value, extra, found', trims, placed⟩ := decides listed
  cases found.symm.trans found'
  have nothing : extra = [] := trims.eq_nil (by simp [Blank, Text.isBlank])
  subst nothing
  exact ⟨isLine, spells_annotated, listed, found, (placed "game").eq_base⟩

end WireSchema
