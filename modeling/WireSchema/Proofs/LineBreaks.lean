import WireSchema.Proofs.AnnotatedLines
import WireSchema.Proofs.Packages

/-! # Namespaces that break a line

An annotated line gives a namespace within that line.  A comment that starts with the key gives
everything that follows, to its very end, and with it the line breaks in between.

* `Comment.Overflows` — what a comment says of its namespace goes on after the end of a line.
* `mem_trim_of_states` — what a comment says of its namespace has a line break exactly then.
* `override_breaks_line_iff` — and so have the wanted namespace, the namespace of the declaration
  and the package of its source.
-/

namespace WireSchema

namespace Text

variable {c : Char} {cs core line v rest : List Char}

/-! ## Texts within a line -/

/-- A text within one line starts the first line of what it starts. -/
theorem prefix_headD_lines (isLine : IsLine v) (back : List Char) :
    v <+: (lines (v ++ back)).headD [] := by
  induction v with
  | nil => exact List.nil_prefix
  | cons c v inductionHypothesis =>
    rw [List.cons_append, isLine.lines_cons, List.headD_cons, List.cons_prefix_cons]
    exact ⟨rfl, inductionHypothesis isLine.tail⟩

/-- A character in front opens a line of its own, is lost in a terminator, or becomes part of the
    first line. -/
theorem lines_cons_cases (c : Char) (rest : List Char) :
    lines (c :: rest) = [] :: lines rest ∨ lines (c :: rest) = lines rest ∨
      c ≠ '\n' ∧ lines (c :: rest) = (c :: (lines rest).headD []) :: (lines rest).tail := by
  by_cases feed : c = '\n'
  · subst feed
    exact .inl rfl
  · by_cases ended : c = '\r' ∧ rest.head? = some '\n'
    · obtain ⟨rfl, feed⟩ := ended
      cases rest with
      | nil => cases feed
      | cons d rest =>
        cases feed
        exact .inr (.inl rfl)
    · exact .inr (.inr ⟨feed, lines_cons feed fun return_ head => ended ⟨return_, head⟩⟩)

theorem noFeed_of_mem_lines (member : line ∈ lines cs) : '\n' ∉ line := by
  induction cs generalizing line with
  | nil => cases member
  | cons c cs inductionHypothesis =>
    obtain opened | lost | ⟨noFeed, joined⟩ := lines_cons_cases c cs
    · rw [opened, List.mem_cons] at member
      rcases member with rfl | member
      · exact List.not_mem_nil
      · exact inductionHypothesis member
    · exact inductionHypothesis (lost ▸ member)
    · -- the first line grows by a character that is no feed
      rw [joined, List.mem_cons] at member
      rcases member with rfl | member
      · rw [List.mem_cons, not_or]
        refine ⟨Ne.symm noFeed, ?_⟩
        cases split : lines cs with
        | nil => exact List.not_mem_nil
        | cons first more =>
          apply inductionHypothesis
          rw [split]
          exact List.mem_cons_self
      · exact inductionHypothesis (List.mem_of_mem_tail member)

theorem exists_line_cons (c : Char) (member : line ∈ lines rest) :
    ∃ line' ∈ lines (c :: rest), line <:+: line' := by
  obtain opened | lost | ⟨_, joined⟩ := lines_cons_cases c rest
  · exact ⟨line, opened ▸ List.mem_cons_of_mem [] member, List.infix_rfl⟩
  · exact ⟨line, lost ▸ member, List.infix_rfl⟩
  · rw [joined]
    cases split : lines rest with
    | nil =>
      rw [split] at member
      cases member
    | cons first more =>
      rw [split] at member
      rcases List.mem_cons.mp member with rfl | member
      · exact ⟨_, List.mem_cons_self, List.infix_cons List.infix_rfl⟩
      · exact ⟨line, List.mem_cons_of_mem _ member, List.infix_rfl⟩

/-- A text within one line is part of a line of every text that it is part of. -/
theorem exists_line_of_infix (isLine : IsLine v) (some : v ≠ []) (inside : v <:+: cs) :
    ∃ line ∈ lines cs, v <:+: line := by
  obtain ⟨front, back, rfl⟩ := inside
  rw [List.append_assoc]
  induction front with
  | nil =>
    have starts := prefix_headD_lines isLine back
    rw [List.nil_append]
    cases split : lines (v ++ back) with
    | nil =>
      rw [split] at starts
      exact absurd (List.prefix_nil.mp starts) some
    | cons line more =>
      rw [split] at starts
      exact ⟨line, List.mem_cons_self, starts.isInfix⟩
  | cons c front inductionHypothesis =>
    obtain ⟨line, member, part⟩ := inductionHypothesis
    obtain ⟨line', member', part'⟩ := exists_line_cons c member
    exact ⟨line', member', part.trans part'⟩

/-! ## Breaks between blank ends -/

def HasText (cs : List Char) : Prop :=
  ∃ c ∈ cs, isBlank c = false

theorem HasText.not_blank {cs : List Char} (text : HasText cs) : ¬ Blank cs := by
  obtain ⟨c, member, solid⟩ := text
  intro blank
  rw [blank c member] at solid
  cases solid

/-- A blank character stays where there is text on both sides of it. -/
theorem Trims.mem_iff (trims : Trims cs core) (blank : isBlank c = true) :
    c ∈ core ↔ ∃ first later, cs = first ++ c :: later ∧ HasText first ∧ HasText later := by
  obtain ⟨⟨front, back, rfl, frontBlank, backBlank⟩, head, last⟩ := trims
  constructor
  · intro member
    obtain ⟨before, after, rfl⟩ := List.append_of_mem member
    refine ⟨front ++ before, after ++ back, by simp, ?_, ?_⟩
    · -- the core starts with another character, which is not blank
      cases before with
      | nil =>
        rw [head c rfl] at blank
        cases blank
      | cons d before => exact ⟨d, by simp, head d rfl⟩
    · cases ends : after.getLast? with
      | none =>
        rw [List.getLast?_eq_none_iff.mp ends] at last
        rw [last c (by simp)] at blank
        cases blank
      | some d =>
        refine ⟨d, List.mem_append_left back (List.mem_of_getLast? ends), last d ?_⟩
        simp [List.getLast?_append, List.getLast?_cons, ends]
  · rintro ⟨first, later, split, textBefore, textAfter⟩
    -- neither end reaches over the text beside the character
    rw [List.append_assoc, List.append_eq_append_iff] at split
    obtain ⟨before, rfl, split⟩ | ⟨rest, rfl, _⟩ := split
    · obtain ⟨rest, rfl, rfl⟩ | ⟨rest, rfl, tail⟩ := List.append_eq_append_iff.mp split
      · exact absurd (fun d member => backBlank d (by simp [member])) textAfter.not_blank
      · cases rest with
        | nil =>
          rw [List.nil_append] at tail
          subst tail
          exact absurd (fun d member => backBlank d (by simp [member])) textAfter.not_blank
        | cons d rest =>
          rw [List.cons_append, List.cons.injEq] at tail
          simp [tail.1]
    · exact absurd (fun d member => frontBlank d (by simp [member])) textBefore.not_blank

theorem Trims.isLine (trims : Trims cs core) (noFeed : '\n' ∉ core) : IsLine core := by
  refine ⟨noFeed, fun ends => ?_⟩
  have solid := trims.last '\r' ends
  cases solid

end Text

/-! ## Comments -/

open Text (HasText IsLine)

variable {comment : Comment} {key value : String}

/-- A comment says a namespace over several lines: it starts with the key and a colon, no line of
    it is annotated, and there is text on two sides of an end of a line. -/
structure Comment.Overflows (comment : Comment) (key : String) : Prop where
  unannotated : ∀ line ∈ Text.lines comment.leading.toList, ∀ value,
    ¬ Carries key.toList line value
  opening : ∃ first later, comment.leading.toList =
    key.toList ++ ':' :: (first ++ '\n' :: later) ∧ HasText first ∧ HasText later

theorem annotation?_eq_none : comment.annotation? key = none ↔
    ∀ line ∈ Text.lines comment.leading.toList, ∀ value, ¬ Carries key.toList line value := by
  simp only [Comment.annotation?, Option.map_eq_none_iff, List.findSome?_eq_none_iff,
    annotationValue?_eq_none]

theorem openingValue?_eq_some : comment.openingValue? key = some value ↔
    comment.leading.toList = key.toList ++ ':' :: value.toList := by
  rw [Comment.openingValue?, Option.map_eq_some_iff]
  constructor
  · rintro ⟨rest, found, rfl⟩
    rw [Text.after?_eq_some_iff.mp found, String.toList_ofList, List.append_assoc]
    rfl
  · intro split
    refine ⟨value.toList, Text.after?_eq_some_iff.mpr ?_, String.ofList_toList⟩
    rw [split, List.append_assoc]
    rfl

/-- The value that a line carries is part of it. -/
theorem Carries.suffix {key line value : List Char} (carries : Carries key line value) :
    value <:+ line := by
  cases carries with
  | bare => exact List.nil_suffix
  | @colon indent value => exact ⟨indent ++ '@' :: (key ++ [':']), by simp⟩
  | @spaced indent value c => exact ⟨indent ++ '@' :: key, by simp⟩

theorem exists_line_of_annotation? (found : comment.annotation? key = some value) :
    ∃ line ∈ Text.lines comment.leading.toList, Carries key.toList line value.toList := by
  obtain ⟨cs, reads, rfl⟩ := Option.map_eq_some_iff.mp found
  obtain ⟨line, member, reads⟩ := List.exists_of_findSome?_eq_some reads
  rw [String.toList_ofList]
  exact ⟨line, member, annotationValue?_eq_some.mp reads⟩

theorem Comment.Overflows.exists_states (overflows : comment.Overflows key) :
    ∃ value, comment.States key value := by
  obtain ⟨first, later, split, _⟩ := overflows.opening
  refine ⟨String.ofList (first ++ '\n' :: later), ?_⟩
  rw [Comment.States, annotation?_eq_none.mpr overflows.unannotated, Option.none_or,
    openingValue?_eq_some, split, String.toList_ofList]

/-- What is said has a line break inside exactly if it overflows. -/
theorem mem_trim_of_states (states : comment.States key value) :
    '\n' ∈ Text.trim value.toList ↔ comment.Overflows key := by
  have between := (Text.trims_trim value.toList).mem_iff (c := '\n') rfl
  rw [between]
  unfold Comment.States at states
  cases annotated : comment.annotation? key with
  | some other =>
    rw [annotated, Option.some_or, Option.some.injEq] at states
    subst states
    obtain ⟨line, member, carries⟩ := exists_line_of_annotation? annotated
    constructor
    · rintro ⟨first, later, split, _⟩
      -- the value would take the line break from its line
      have feed : '\n' ∈ line := carries.suffix.subset (by simp [split])
      exact absurd feed (Text.noFeed_of_mem_lines member)
    · intro overflows
      exact absurd carries (overflows.unannotated line member _)
  | none =>
    rw [annotated, Option.none_or, openingValue?_eq_some] at states
    constructor
    · rintro ⟨first, later, split, text⟩
      exact ⟨annotation?_eq_none.mp annotated, first, later, split ▸ states, text⟩
    · rintro ⟨_, first, later, split, text⟩
      rw [states, List.append_cancel_left_eq, List.cons.injEq] at split
      exact ⟨first, later, split.2, text⟩

/-- What is said without its blank ends stands in one line, if it does not overflow. -/
theorem exists_line_of_states (states : comment.States key value)
    (some : Text.trim value.toList ≠ []) (within : ¬ comment.Overflows key) :
    ∃ line ∈ Text.lines comment.leading.toList, Text.trim value.toList <:+: line := by
  have trims := Text.trims_trim value.toList
  have inside : Text.trim value.toList <:+: value.toList := by
    obtain ⟨front, back, split, _⟩ := trims.split
    exact ⟨front, back, split.symm⟩
  have isLine := trims.isLine fun feed => within ((mem_trim_of_states states).mp feed)
  unfold Comment.States at states
  cases annotated : comment.annotation? key with
  | some other =>
    rw [annotated, Option.some_or, Option.some.injEq] at states
    subst states
    obtain ⟨line, member, carries⟩ := exists_line_of_annotation? annotated
    exact ⟨line, member, inside.trans carries.suffix.isInfix⟩
  | none =>
    -- the value may go over several lines, but what is left of it without blank ends does not
    rw [annotated, Option.none_or, openingValue?_eq_some] at states
    apply Text.exists_line_of_infix isLine some
    rw [states]
    exact inside.trans ⟨key.toList ++ [':'], [], by simp⟩

/-! ## Namespaces -/

theorem namespaceOverride?_eq_some : comment.namespaceOverride? key = some value ↔
    ∃ stated, comment.States key stated ∧ Text.trim stated.toList = value.toList ∧
      value.toList ≠ [] := by
  unfold Comment.namespaceOverride? Comment.States
  cases (comment.annotation? key).or (comment.openingValue? key) with
  | none => simp
  | some stated =>
    simp only [Option.some.injEq, exists_eq_left']
    cases Text.trim stated.toList with
    | nil => exact ⟨nofun, fun both => absurd both.1.symm both.2⟩
    | cons c rest =>
      simp only [Option.some.injEq, ← String.toList_inj, String.toList_ofList]
      constructor
      · rintro same
        exact ⟨same, same ▸ List.cons_ne_nil c rest⟩
      · exact And.left

theorem Extends.mem_iff {base result : String} {extra : List Char} {c : Char}
    (placed : Extends base extra result) (other : c ∉ base.toList) (noDot : c ≠ '.') :
    c ∈ result.toList ↔ c ∈ extra := by
  cases placed with
  | blank => simp [other]
  | alone some empty => simp
  | joined some named => simp [other, noDot]

theorem mem_placement_iff {base : String} (noFeed : '\n' ∉ base.toList) :
    '\n' ∈ (placement key base comment).toList ↔ comment.Overflows key := by
  by_cases states : ∃ value, comment.States key value
  · obtain ⟨value, states⟩ := states
    rw [← mem_trim_of_states states]
    exact (extends_placement states base).mem_iff noFeed (by decide)
  · have silent : (comment.annotation? key).or (comment.openingValue? key) = none :=
      Option.eq_none_iff_forall_ne_some.mpr fun value found => states ⟨value, found⟩
    have same : placement key base comment = base := by
      unfold placement Comment.namespaceOverride?
      rw [silent]
    rw [same]
    exact ⟨fun feed => absurd feed noFeed, fun overflows => absurd overflows.exists_states states⟩

/-- A wanted namespace has a line break in it, and does not stand in one line of the comment,
    exactly if the comment overflows.  A module whose namespace has no line break places a
    declaration in a namespace with a line break, and writes a package that goes over several lines
    into its source, exactly if the comment of the declaration overflows. -/
theorem override_breaks_line_iff (comment : Comment) (key : String) :
    (∀ value, comment.namespaceOverride? key = some value →
        ('\n' ∈ value.toList ↔ comment.Overflows key) ∧
        ((∃ line ∈ Text.lines comment.leading.toList, value.toList <:+: line) ↔
          ¬ comment.Overflows key)) ∧
      (∀ base, '\n' ∉ base.toList →
        ('\n' ∈ (placement key base comment).toList ↔ comment.Overflows key)) ∧
      ∀ modules config module declaration file, config.namespaceTag = key →
        declaration.comment = comment → '\n' ∉ module.defaultNamespace.toList →
        RendersTo modules config module declaration file →
        file.placement = placement key module.defaultNamespace comment ∧
          PackageLine config.banner file.contents (statedPackage file.placement) ∧
          ((∃ name ∈ statedPackage file.placement, '\n' ∈ name.toList) ↔
            comment.Overflows key) := by
  refine ⟨?_, fun base => mem_placement_iff, ?_⟩
  · intro value asked
    obtain ⟨stated, states, trimmed, some⟩ := namespaceOverride?_eq_some.mp asked
    have feed := mem_trim_of_states states
    rw [trimmed] at feed
    refine ⟨feed, ?_, ?_⟩
    · rintro ⟨line, member, part⟩ overflows
      exact Text.noFeed_of_mem_lines member (part.subset (feed.mpr overflows))
    · intro within
      have inside := exists_line_of_states states (trimmed ▸ some) within
      rwa [trimmed] at inside
  · rintro modules config module declaration file rfl rfl noFeed rendered
    have placed : file.placement =
        placement config.namespaceTag module.defaultNamespace declaration.comment :=
      rendered.labels.2
    refine ⟨placed, rendered.packageLine, ?_⟩
    rw [← mem_placement_iff noFeed, placed]
    unfold statedPackage
    split
    · next empty => simp [empty]
    · simp

namespace Sample

/-- A comment that starts with a namespace, and goes on with a description. -/
def described : Comment := .ofLeading ("javaPackage:bag" ++ "\n" ++ "Holds items.")

def describedBag : Module := ⟨"bag.sp", "game", [⟨"Bag", [], described⟩], []⟩

end Sample

open Sample in
/-- The description becomes part of the namespace, and of the package of the source. -/
theorem override_breaks_line_described :
    ∃ value file, described.namespaceOverride? "javaPackage" = some value ∧
      '\n' ∈ value.toList ∧ described.Overflows "javaPackage" ∧ '\n' ∉ "game".toList ∧
      RendersTo [describedBag] .default describedBag (.struct ⟨"Bag", [], described⟩) file ∧
      PackageLine Config.default.banner file.contents (statedPackage file.placement) ∧
      ∃ name ∈ statedPackage file.placement, '\n' ∈ name.toList := by
  obtain ⟨values, _, packages⟩ := override_breaks_line_iff described "javaPackage"
  have asked : described.namespaceOverride? "javaPackage" = some "bag\nHolds items." := by
    decide +kernel
  have breaks : '\n' ∈ "bag\nHolds items.".toList := by decide
  have overflows := (values _ asked).1.mp breaks
  obtain ⟨file, rendered⟩ : ∃ file, RendersTo [describedBag] .default describedBag
      (.struct ⟨"Bag", [], described⟩) file := ⟨_, rfl⟩
  have noFeed : '\n' ∉ "game".toList := by decide
  obtain ⟨_, line, names⟩ := packages _ _ _ _ file rfl rfl noFeed rendered
  exact ⟨_, file, asked, breaks, overflows, noFeed, rendered, line, names.mpr overflows⟩

end WireSchema
