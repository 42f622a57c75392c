import WireSchema.Proofs.FileTrees

/-! # Where paths lead as texts

A path says where it leads without a look at any tree: from the root or from the working
directory, so many directories up, and then down through names.

* `Path.components_eq_name_iff` — which texts are names, with nothing else to them.
* `Path.steps_push` — joining paths is walking one after the other.
* `Path.Destination` — where a path leads as a text, and `Destination.Below`, when that is
  somewhere inside of another place.
* `Path.destination_push` — where joined paths lead.
* `FileTree.locate_eq` — where a tree has anything on the way, a path leads to the same place.
-/

namespace WireSchema

/-! ## Pieces of texts -/

namespace Text

variable {separator : Char} {cs piece : List Char}

theorem splitAt_append (separator : Char) (first second : List Char) :
    splitAt separator (first ++ separator :: second) =
      splitAt separator first ++ splitAt separator second := by
  induction first with
  | nil => simp [splitAt]
  | cons c first inductionHypothesis =>
    simp only [List.cons_append, splitAt, inductionHypothesis]
    split
    · rfl
    · cases pieces : splitAt separator first with
      | nil => exact absurd pieces (splitAt_ne_nil separator first)
      | cons piece more => rfl

theorem splitAt_eq_self (absent : separator ∉ cs) : splitAt separator cs = [cs] := by
  induction cs with
  | nil => rfl
  | cons c cs inductionHypothesis =>
    rw [List.mem_cons, not_or] at absent
    simp only [splitAt, if_neg (Ne.symm absent.1), inductionHypothesis absent.2]

theorem not_mem_of_mem_splitAt (listed : piece ∈ splitAt separator cs) : separator ∉ piece := by
  induction cs generalizing piece with
  | nil =>
    cases List.mem_singleton.mp listed
    exact List.not_mem_nil
  | cons c cs inductionHypothesis =>
    simp only [splitAt] at listed
    split at listed
    · rcases List.mem_cons.mp listed with rfl | listed
      · exact List.not_mem_nil
      · exact inductionHypothesis listed
    · next other =>
      cases pieces : splitAt separator cs with
      | nil => exact absurd pieces (splitAt_ne_nil separator cs)
      | cons head more =>
        rw [pieces] at listed inductionHypothesis
        rcases List.mem_cons.mp listed with rfl | listed
        · rw [List.mem_cons, not_or]
          exact ⟨Ne.symm other, inductionHypothesis List.mem_cons_self⟩
        · exact inductionHypothesis (List.mem_cons_of_mem _ listed)

end Text

namespace Path

variable {path addition name : String}

/-! ## Steps -/

/-- The steps that the characters of a path describe. -/
def stepsOf (cs : List Char) : List Step := (parts cs).filterMap step?

theorem steps_eq (path : String) : steps path = stepsOf path.toList := rfl

theorem stepsOf_append (first second : List Char) :
    stepsOf (first ++ '/' :: second) = stepsOf first ++ stepsOf second := by
  simp only [stepsOf, parts, Text.splitAt_append, List.filterMap_append]

theorem step?_eq_into {cs : List Char} (named : cs ≠ []) (moves : cs ≠ ['.'] ∧ cs ≠ ['.', '.']) :
    step? cs = some (.into (String.ofList cs)) := by
  unfold step?
  split
  · exact absurd rfl named
  · exact absurd rfl moves.1
  · exact absurd rfl moves.2
  · rfl

/-- A text without slashes is one step, if it is a name. -/
theorem steps_of_name (named : name ≠ "") (moves : name ≠ "." ∧ name ≠ "..")
    (noSlash : '/' ∉ name.toList) : steps name = [.into name] := by
  have toList {other : String} (differs : name ≠ other) : name.toList ≠ other.toList :=
    fun same => differs (String.toList_inj.mp same)
  have single : step? name.toList = some (.into name) := by
    rw [step?_eq_into (toList named) ⟨toList moves.1, toList moves.2⟩, String.ofList_toList]
  rw [steps_eq, stepsOf, parts, Text.splitAt_eq_self noSlash, List.filterMap_cons, single]
  rfl

theorem isAbsolute_of_name (noSlash : '/' ∉ name.toList) : isAbsolute name = false := by
  unfold isAbsolute
  cases cs : name.toList with
  | nil => rfl
  | cons c rest =>
    rw [cs, List.mem_cons, not_or] at noSlash
    simpa using Ne.symm noSlash.1

/-! ## Names -/

/-- The parts that follow the start of a path have no slash in them. -/
theorem not_mem_of_mem_anatomy {cs part : List Char} (listed : part ∈ (anatomy cs).2) :
    '/' ∉ part := by
  unfold anatomy at listed
  split at listed
  · exact Text.not_mem_of_mem_splitAt listed
  · cases listed
  · exact Text.not_mem_of_mem_splitAt listed
  · exact Text.not_mem_of_mem_splitAt listed

theorem name_not_mem_startComponents (start : List Char) :
    .name name ∉ startComponents start := by
  unfold startComponents
  split
  · simp
  · split <;> simp

/-- The parts that are names say neither nothing nor a step to another directory. -/
theorem component?_eq_name_iff {part : List Char} :
    component? part = some (.name name) ↔ part = name.toList ∧ name ∉ ["", ".", ".."] := by
  constructor
  · intro is
    unfold component? at is
    split at is
    · cases is
    · cases is
    · cases is
    · next nothing here up =>
      cases is
      simp only [String.toList_ofList, List.mem_cons, List.not_mem_nil, or_false, not_or,
        ← String.toList_inj, true_and]
      exact ⟨nothing, here, up⟩
  · rintro ⟨rfl, moves⟩
    simp only [List.mem_cons, List.not_mem_nil, or_false, not_or, ← String.toList_inj] at moves
    unfold component?
    split
    · next cs => exact absurd cs moves.1
    · next cs => exact absurd cs moves.2.1
    · next cs => exact absurd cs moves.2.2
    · rw [String.ofList_toList]

/-- A text without slashes has one part, with nothing in front of it. -/
theorem anatomy_of_name (moves : path ≠ ".") (noSlash : '/' ∉ path.toList) :
    anatomy path.toList = ([], [path.toList]) := by
  have single : parts path.toList = [path.toList] := Text.splitAt_eq_self noSlash
  unfold anatomy
  split
  · next cs => simp [cs] at noSlash
  · next cs => exact absurd (String.toList_inj.mp cs) moves
  · next cs => simp [cs] at noSlash
  · rw [single]

/-- A text is a name, with nothing else to it, exactly if it has no slash and is no step to another
    directory. -/
theorem components_eq_name_iff :
    components path = [.name path] ↔ path ∉ ["", ".", ".."] ∧ '/' ∉ path.toList := by
  constructor
  · intro single
    have listed : .name path ∈ components path := single ▸ List.mem_singleton_self _
    obtain ⟨part, follows, is⟩ := List.mem_filterMap.mp
      ((List.mem_append.mp listed).resolve_left (name_not_mem_startComponents _))
    obtain ⟨rfl, named⟩ := component?_eq_name_iff.mp is
    exact ⟨named, not_mem_of_mem_anatomy follows⟩
  · rintro ⟨named, noSlash⟩
    have part : component? path.toList = some (.name path) :=
      component?_eq_name_iff.mpr ⟨rfl, named⟩
    have moves : path ≠ "." := by
      rintro rfl
      simp at named
    simp [components, anatomy_of_name moves noSlash, startComponents, part]

/-! ## Joined paths -/

/-- A joined path is its second part alone, or has a slash between the two. -/
theorem push_cases (path : String) (relative : isAbsolute addition = false) :
    (path = "" ∧ push path addition = addition) ∨
      (∃ front, path.toList = front ++ ['/'] ∧
        (push path addition).toList = front ++ '/' :: addition.toList) ∨
      path ≠ "" ∧ (push path addition).toList = path.toList ++ '/' :: addition.toList := by
  unfold push
  rw [if_neg (by rw [relative]; exact Bool.false_ne_true)]
  by_cases empty : path = ""
  · subst empty
    exact .inl ⟨rfl, String.empty_append⟩
  · by_cases ends : path.toList.getLast? = some '/'
    · obtain ⟨front, split⟩ := List.getLast?_eq_some_iff.mp ends
      refine .inr (.inl ⟨front, split, ?_⟩)
      rw [if_pos (by simp [ends]), String.toList_append, split, List.append_assoc]
      rfl
    · refine .inr (.inr ⟨empty, ?_⟩)
      rw [if_neg (by simp [ends, empty]), String.toList_append, String.toList_append,
        List.append_assoc]
      rfl

/-- Following a joined path is following its parts one after the other. -/
theorem steps_push (relative : isAbsolute addition = false) :
    steps (push path addition) = steps path ++ steps addition := by
  simp only [steps_eq]
  obtain ⟨rfl, joined⟩ | ⟨front, split, joined⟩ | ⟨_, joined⟩ := push_cases path relative
  · rw [joined]
    rfl
  · have nothing : stepsOf path.toList = stepsOf front := by
      rw [split, stepsOf_append]
      exact List.append_nil _
    rw [joined, stepsOf_append, nothing]
  · rw [joined, stepsOf_append]

/-- A joined path starts where its first part does. -/
theorem isAbsolute_push (relative : isAbsolute addition = false) :
    isAbsolute (push path addition) = isAbsolute path := by
  obtain ⟨rfl, joined⟩ | ⟨front, split, joined⟩ | ⟨named, joined⟩ := push_cases path relative
  · rw [joined, relative]
    rfl
  · rw [isAbsolute, joined, isAbsolute, split]
    cases front <;> rfl
  · rw [isAbsolute, joined, isAbsolute]
    cases cs : path.toList with
    | nil => exact absurd (String.toList_eq_nil_iff.mp cs) named
    | cons c cs => rfl

/-! ## Destinations -/

/-- Where a path leads as a text: from the root, or from `ups` directories above the one that it
    starts in, down through `names`, innermost first. -/
structure Destination where
  absolute : Bool
  ups : Nat
  names : List String
  deriving DecidableEq

namespace Destination

/-- Goes one step further.  There is nothing above the root. -/
def go (destination : Destination) : Step → Destination
  | .stay => destination
  | .into name => { destination with names := name :: destination.names }
  | .up =>
    match destination.names with
    | _ :: names => { destination with names := names }
    | [] =>
      if destination.absolute then destination
      else { destination with ups := destination.ups + 1 }

/-- From one destination to another one that is given as it is seen from there. -/
def followedBy (first second : Destination) : Destination where
  absolute := first.absolute
  ups :=
    if first.absolute then first.ups
    else first.ups + (second.ups - first.names.length)
  names := second.names ++ first.names.drop second.ups

/-- Strictly inside of another destination. -/
def Below (inner outer : Destination) : Prop :=
  inner.absolute = outer.absolute ∧ inner.ups = outer.ups ∧
    ∃ names, names ≠ [] ∧ inner.names = names ++ outer.names

/-- The destination that one starts from. -/
def start : Destination := ⟨false, 0, []⟩

theorem followedBy_start (first : Destination) : first.followedBy start = first := by
  simp [followedBy, start]

theorem go_followedBy (first second : Destination) (relative : second.absolute = false)
    (step : Step) : (first.followedBy second).go step = first.followedBy (second.go step) := by
  obtain ⟨_, ups, names⟩ := second
  cases relative
  cases step with
  | stay => rfl
  | into name => rfl
  | up =>
    cases names with
    | cons name names => rfl
    | nil =>
      -- the step leaves a directory of the first destination, or goes up where none is left
      obtain ⟨absolute, above, outer⟩ := first
      simp only [go, followedBy, List.nil_append, Bool.false_eq_true, if_false]
      cases left : outer.drop ups with
      | cons name rest =>
        have inside : ups < outer.length := by
          rw [← Nat.not_le, ← List.drop_eq_nil_iff, left]
          exact List.cons_ne_nil _ _
        have next : outer.drop (ups + 1) = rest := by
          rw [← List.tail_drop, left]
          rfl
        have level : ups - outer.length = ups + 1 - outer.length := by omega
        simp only [next, level]
      | nil =>
        have outside : outer.length ≤ ups := List.drop_eq_nil_iff.mp left
        have next : outer.drop (ups + 1) = [] := List.drop_eq_nil_iff.mpr (by omega)
        have level : ups + 1 - outer.length = ups - outer.length + 1 := by omega
        cases absolute with
        | true => simp only [next, if_true]
        | false => simp only [next, level, Bool.false_eq_true, if_false, Nat.add_assoc]

theorem go_absolute (destination : Destination) (step : Step) :
    (destination.go step).absolute = destination.absolute := by
  cases step with
  | stay | into name => rfl
  | up =>
    unfold go
    cases destination.names with
    | cons name names => rfl
    | nil => cases absolute : destination.absolute <;> simp [absolute]

theorem foldl_go_absolute (steps : List Step) (destination : Destination) :
    (steps.foldl go destination).absolute = destination.absolute := by
  induction steps generalizing destination with
  | nil => rfl
  | cons step steps inductionHypothesis =>
    rw [List.foldl_cons, inductionHypothesis, go_absolute]

/-- Steps lead to the same place, wherever they are seen from. -/
theorem foldl_go_followedBy (steps : List Step) (first second : Destination)
    (relative : second.absolute = false) :
    steps.foldl go (first.followedBy second) = first.followedBy (steps.foldl go second) := by
  induction steps generalizing second with
  | nil => rfl
  | cons step steps inductionHypothesis =>
    rw [List.foldl_cons, List.foldl_cons, go_followedBy first second relative]
    exact inductionHypothesis _ ((go_absolute second step).trans relative)

theorem foldl_go_eq (steps : List Step) (first : Destination) :
    steps.foldl go first = first.followedBy (steps.foldl go start) := by
  have seen := foldl_go_followedBy steps first start rfl
  rwa [followedBy_start] at seen

/-- `outer` keeps a name that is followed from a place `depth` directories deep inside of it: the
    name climbs no further than those directories and ends below `outer`, or it climbs out and
    finds the way back, or it starts at the root and leads there. -/
inductive Keeps (outer : Destination) (depth : Nat) (name : Destination) : Prop where
  | within : name.absolute = false → name.ups ≤ depth → (name.names ≠ [] ∨ name.ups < depth) →
      Keeps outer depth name
  | returning : name.absolute = false → depth < name.ups →
      (outer.absolute = true ∨ name.ups - depth ≤ outer.names.length) →
      (∃ names, names ≠ [] ∧ name.names = names ++ outer.names.take (name.ups - depth)) →
      Keeps outer depth name
  | rooted : name.absolute = true → name.Below outer → Keeps outer depth name

theorem keeps_iff_of_le {outer name : Destination} {depth : Nat}
    (relative : name.absolute = false) (shallow : name.ups ≤ depth) :
    Keeps outer depth name ↔ name.names ≠ [] ∨ name.ups < depth := by
  constructor
  · intro keeps
    cases keeps with
    | within _ _ inside => exact inside
    | returning _ deep => omega
    | rooted absolute =>
      rw [relative] at absolute
      cases absolute
  · exact .within relative shallow

theorem keeps_iff_of_lt {outer name : Destination} {depth : Nat}
    (relative : name.absolute = false) (deep : depth < name.ups) :
    Keeps outer depth name ↔
      (outer.absolute = true ∨ name.ups - depth ≤ outer.names.length) ∧
        ∃ names, names ≠ [] ∧ name.names = names ++ outer.names.take (name.ups - depth) := by
  constructor
  · intro keeps
    cases keeps with
    | within _ shallow => omega
    | returning _ _ level back => exact ⟨level, back⟩
    | rooted absolute =>
      rw [relative] at absolute
      cases absolute
  · rintro ⟨level, back⟩
    exact .returning relative deep level back

/-- What is seen from a place inside of `outer` is below `outer` exactly if it is kept there. -/
theorem followedBy_below_iff {outer name : Destination} {inner : List String}
    (relative : name.absolute = false) :
    ({ outer with names := inner ++ outer.names }.followedBy name).Below outer ↔
      Keeps outer inner.length name := by
  obtain ⟨absolute, above, names⟩ := outer
  simp only [followedBy, Below, true_and, List.length_append]
  rcases Nat.lt_or_ge inner.length name.ups with deep | shallow
  · rw [keeps_iff_of_lt relative deep, List.drop_append,
      List.drop_eq_nil_of_le (Nat.le_of_lt deep), List.nil_append]
    refine and_congr ?_ (exists_congr fun back => and_congr_right fun _ => ?_)
    · cases absolute with
      | true => simp
      | false =>
        simp only [Bool.false_eq_true, if_false, false_or]
        omega
    · -- what is left of `outer` has to be found again after the names
      refine Iff.trans ?_ (List.append_left_inj (names.drop (name.ups - inner.length)))
      rw [List.append_assoc, List.take_append_drop]
  · have level : (if absolute = true then above
        else above + (name.ups - (inner.length + names.length))) = above := by
      have none : name.ups - (inner.length + names.length) = 0 := by omega
      rw [none, Nat.add_zero, ite_self]
    have remains : name.names ++ inner.drop name.ups ≠ [] ↔
        name.names ≠ [] ∨ name.ups < inner.length := by
      rw [ne_eq, List.append_eq_nil_iff, Classical.not_and_iff_not_or_not, List.drop_eq_nil_iff,
        Nat.not_le]
    rw [keeps_iff_of_le relative shallow, List.drop_append_of_le_length shallow, ← remains,
      ← List.append_assoc]
    simp only [level, List.append_left_inj, true_and, exists_eq_right']

end Destination

/-- Where a path leads. -/
def destination (path : String) : Destination :=
  (steps path).foldl .go ⟨isAbsolute path, 0, []⟩

theorem destination_absolute (path : String) :
    (destination path).absolute = isAbsolute path :=
  Destination.foldl_go_absolute _ _

/-- A text that is one step inwards leads there. -/
theorem destination_of_step (relative : isAbsolute path = false)
    (single : steps path = [.into name]) : destination path = ⟨false, 0, [name]⟩ := by
  rw [destination, single, relative]
  rfl

/-- A joined path leads where its second part leads, as seen from the first one. -/
theorem destination_push (path : String) (relative : isAbsolute addition = false) :
    destination (push path addition) = (destination path).followedBy (destination addition) := by
  unfold destination
  rw [steps_push relative, isAbsolute_push relative, List.foldl_append,
    Destination.foldl_go_eq (steps addition), relative]
  rfl

end Path

/-! ## Places of trees -/

namespace FileTree

open Path (Destination destination)

variable {tree : FileTree} {location place : Location} {path : String}

/-- The place of a tree that a destination is. -/
def placeOf (tree : FileTree) (destination : Destination) : Location :=
  if destination.absolute then destination.names
  else destination.names ++ tree.workingDirectory.drop destination.ups

theorem names_go_of_enter {step : Path.Step} (entered : tree.enter location step = .ok place) :
    Destination.go ⟨true, 0, location⟩ step = ⟨true, 0, place⟩ := by
  simp only [enter, find?_of_enter entered] at entered
  cases step with
  | stay =>
    cases entered
    rfl
  | up =>
    cases entered
    cases location <;> rfl
  | into name =>
    dsimp only at entered
    split at entered
    · cases entered
    · cases entered
      rfl

theorem foldl_go_of_follow {steps : List Path.Step}
    (followed : tree.follow location steps = .ok place) :
    steps.foldl Destination.go ⟨true, 0, location⟩ = ⟨true, 0, place⟩ := by
  induction steps generalizing location with
  | nil =>
    cases followed
    rfl
  | cons step steps inductionHypothesis =>
    simp only [follow, bind_eq_ok] at followed
    obtain ⟨next, entered, followed⟩ := followed
    rw [List.foldl_cons, names_go_of_enter entered]
    exact inductionHypothesis followed

/-- A destination inside of another one is a place inside of another one. -/
theorem exists_placeOf_of_below {inner outer : Destination} (below : inner.Below outer) :
    ∃ names, names ≠ [] ∧ tree.placeOf inner = names ++ tree.placeOf outer := by
  obtain ⟨absolute, ups, names, some, split⟩ := below
  refine ⟨names, some, ?_⟩
  unfold placeOf
  rw [absolute, ups, split]
  split
  · rfl
  · rw [List.append_assoc]

/-- Where a path leads in a tree is where it leads as a text. -/
theorem locate_eq (located : tree.locate path = .ok place) :
    place = tree.placeOf (destination path) := by
  simp only [locate, bind_eq_ok] at located
  obtain ⟨_, _, followed⟩ := located
  have walked := foldl_go_of_follow followed
  rw [placeOf, Path.destination_absolute]
  unfold startOf at walked
  cases absolute : Path.isAbsolute path with
  | true =>
    rw [absolute, if_pos rfl] at walked
    rw [if_pos rfl, destination, absolute, walked]
  | false =>
    rw [absolute, if_neg Bool.false_ne_true, Destination.foldl_go_eq] at walked
    rw [if_neg Bool.false_ne_true, destination, absolute]
    exact (congrArg Destination.names walked).symm

end FileTree

end WireSchema
