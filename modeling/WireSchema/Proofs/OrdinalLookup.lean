import WireSchema.Proofs.ConstantLists
import WireSchema.Proofs.WireLibrary

/-! # The lookup of an enum

The class of an enum has a method that finds a constant by its position.  The method is described
here with the forms of statements that it has, so that its text can be told from what it does.

* `Term` and `Block` — what the method is made of, with the text of each.
* `Term.eval` and `Block.Runs` — what terms and blocks do.
* `Block.Runs.deterministic` — a block does one thing only.
* `lookupLines_eq` — the lines of the method are those of `lookupBlock`.
* `Selects` — the constant that belongs to a position.
* `lookup_runs_iff` — the method answers that constant.
* `ordinals_kept` — the source of an enum lists the constants, and finds them by their positions.
-/

namespace WireSchema

open Output (EnumClass SourceFile indent joinLines)

namespace Output.EnumClass

/-! ## Terms -/

/-- An expression in the lookup of an enum. -/
inductive Term where
  | number (n : Int)
  | name (id : String)
  | null
  /-- All constants of an enum. -/
  | values (className : String)
  | length (array : Term)
  | element (array index : Term)
  | ordinal (constant : Term)
  | less (left right : Term)
  | greater (left right : Term)
  | equal (left right : Term)
  | choice (condition yes no : Term)
  deriving DecidableEq

namespace Term

def spelling : Term → String
  | number n => toString n
  | name id => id
  | null => "null"
  | values className => className ++ ".values()"
  | length array => array.spelling ++ ".length"
  | element array index => array.spelling ++ "[" ++ index.spelling ++ "]"
  | ordinal constant => constant.spelling ++ ".ordinal()"
  | less left right => left.spelling ++ " < " ++ right.spelling
  | greater left right => left.spelling ++ " > " ++ right.spelling
  | equal left right => left.spelling ++ " == " ++ right.spelling
  | choice condition yes no =>
    condition.spelling ++ " ? " ++ yes.spelling ++ " : " ++ no.spelling

end Term

/-- A constant, with its place among the constants of its enum. -/
structure Constant where
  name : String
  ordinal : Nat
  deriving DecidableEq

/-- The constants of an enum, in declaration order. -/
def values (decl : EnumClass) : List Constant :=
  decl.constants.mapIdx fun position name => ⟨name, position⟩

/-- What a term stands for. -/
inductive Value where
  | number (n : Int)
  | truth (b : Bool)
  | null
  | constant (constant : Constant)
  | array (elements : List Constant)
  deriving DecidableEq

/-- The values of the names in scope. -/
abbrev Names := String → Option Value

/-- The names in scope with one more. -/
def Names.with (names : Names) (name : String) (value : Value) : Names :=
  fun id => if id = name then some value else names id

/-- The value of a term.  A term without one is an error, such as an index without an element.
    Numbers are not cut off to the width of an `int`: the only sum is that of an index into an
    array and one. -/
def Term.eval (decl : EnumClass) (names : Names) : Term → Option Value
  | number n => some (.number n)
  | name id => names id
  | null => some .null
  | values className => if className = decl.name then some (.array decl.values) else none
  | length array =>
    match array.eval decl names with
    | some (.array elements) => some (.number elements.length)
    | _ => none
  | element array index =>
    match array.eval decl names, index.eval decl names with
    | some (.array elements), some (.number (.ofNat position)) =>
      elements[position]?.map .constant
    | _, _ => none
  | ordinal constant =>
    match constant.eval decl names with
    | some (.constant constant) => some (.number constant.ordinal)
    | _ => none
  | less left right =>
    match left.eval decl names, right.eval decl names with
    | some (.number m), some (.number n) => some (.truth (m < n))
    | _, _ => none
  | greater left right =>
    match left.eval decl names, right.eval decl names with
    | some (.number m), some (.number n) => some (.truth (n < m))
    | _, _ => none
  | equal left right =>
    match left.eval decl names, right.eval decl names with
    | some (.number m), some (.number n) => some (.truth (m = n))
    | _, _ => none
  | choice condition yes no =>
    match condition.eval decl names with
    | some (.truth true) => yes.eval decl names
    | some (.truth false) => no.eval decl names
    | _ => none

/-! ## Blocks -/

/-- Statements in the lookup of an enum, each with those that follow. -/
inductive Block where
  | done
  | answer (value : Term)
  | declare (type name : String) (value : Term) (rest : Block)
  | when (condition : Term) (body rest : Block)
  /-- The body, with a counter that goes from a number up to a bound. -/
  | count (counter : String) (start : Int) (bound : Term) (body rest : Block)
  deriving DecidableEq

namespace Block

def lines (level : Nat) : Block → List String
  | done => []
  | answer value => [indent level ("return " ++ value.spelling ++ ";")]
  | declare type name value rest =>
    indent level (type ++ " " ++ name ++ " = " ++ value.spelling ++ ";") :: rest.lines level
  | when condition body rest =>
    indent level ("if (" ++ condition.spelling ++ ") \x7b") :: body.lines (level + 1) ++
      indent level "\x7d" :: rest.lines level
  | count counter start bound body rest =>
    indent level ("for (int " ++ counter ++ " = " ++ toString start ++ "; " ++ counter ++ " < " ++
        bound.spelling ++ "; " ++ counter ++ "++) \x7b") :: body.lines (level + 1) ++
      indent level "\x7d" :: rest.lines level

/-- What a block does, with an answer or without one.  Nothing is assigned to a name that is in
    scope already, so that a loop is its body and the loop from the next number. -/
inductive Runs (decl : EnumClass) : Names → Block → Option Value → Prop where
  | done {names : Names} : Runs decl names .done none
  | answer {names : Names} {term : Term} {value : Value} :
      term.eval decl names = some value → Runs decl names (.answer term) (some value)
  | declare {names : Names} {type name : String} {term : Term} {value : Value} {rest : Block}
      {outcome : Option Value} : term.eval decl names = some value →
      Runs decl (names.with name value) rest outcome →
      Runs decl names (.declare type name term rest) outcome
  | whenAnswers {names : Names} {condition : Term} {body rest : Block} {value : Value} :
      condition.eval decl names = some (.truth true) → Runs decl names body (some value) →
      Runs decl names (.when condition body rest) (some value)
  | whenPasses {names : Names} {condition : Term} {body rest : Block} {outcome : Option Value} :
      condition.eval decl names = some (.truth true) → Runs decl names body none →
      Runs decl names rest outcome → Runs decl names (.when condition body rest) outcome
  | whenSkips {names : Names} {condition : Term} {body rest : Block} {outcome : Option Value} :
      condition.eval decl names = some (.truth false) → Runs decl names rest outcome →
      Runs decl names (.when condition body rest) outcome
  | countEnds {names : Names} {counter : String} {start limit : Int} {bound : Term}
      {body rest : Block} {outcome : Option Value} :
      bound.eval decl (names.with counter (.number start)) = some (.number limit) →
      limit ≤ start → Runs decl names rest outcome →
      Runs decl names (.count counter start bound body rest) outcome
  | countAnswers {names : Names} {counter : String} {start limit : Int} {bound : Term}
      {body rest : Block} {value : Value} :
      bound.eval decl (names.with counter (.number start)) = some (.number limit) →
      start < limit → Runs decl (names.with counter (.number start)) body (some value) →
      Runs decl names (.count counter start bound body rest) (some value)
  | countPasses {names : Names} {counter : String} {start limit : Int} {bound : Term}
      {body rest : Block} {outcome : Option Value} :
      bound.eval decl (names.with counter (.number start)) = some (.number limit) →
      start < limit → Runs decl (names.with counter (.number start)) body none →
      Runs decl names (.count counter (start + 1) bound body rest) outcome →
      Runs decl names (.count counter start bound body rest) outcome

/-- A block does one thing only. -/
theorem Runs.deterministic {decl : EnumClass} {names : Names} {block : Block}
    {outcome other : Option Value} (runs : Runs decl names block outcome)
    (runs' : Runs decl names block other) : outcome = other := by
  induction runs generalizing other with
  | done => cases runs'; rfl
  | answer value =>
    cases runs' with
    | answer value' => exact value.symm.trans value'
  | declare value _ rest =>
    cases runs' with
    | declare value' rest' =>
      cases value.symm.trans value'
      exact rest rest'
  | whenAnswers condition _ body =>
    cases runs' with
    | whenAnswers _ body' => exact body body'
    | whenPasses _ body' => cases body body'
    | whenSkips condition' => cases condition.symm.trans condition'
  | whenPasses condition _ _ body rest =>
    cases runs' with
    | whenAnswers _ body' => cases body body'
    | whenPasses _ _ rest' => exact rest rest'
    | whenSkips condition' => cases condition.symm.trans condition'
  | whenSkips condition _ rest =>
    cases runs' with
    | whenAnswers condition' | whenPasses condition' => cases condition.symm.trans condition'
    | whenSkips _ rest' => exact rest rest'
  | countEnds bound ends _ rest =>
    cases runs' with
    | countEnds _ _ rest' => exact rest rest'
    | countAnswers bound' inside | countPasses bound' inside =>
      cases bound.symm.trans bound'
      omega
  | countAnswers bound inside _ body =>
    cases runs' with
    | countEnds bound' ends =>
      cases bound.symm.trans bound'
      omega
    | countAnswers _ _ body' => exact body body'
    | countPasses _ _ body' => cases body body'
  | countPasses bound inside _ _ body rest =>
    cases runs' with
    | countEnds bound' ends =>
      cases bound.symm.trans bound'
      omega
    | countAnswers _ _ body' => cases body body'
    | countPasses _ _ _ rest' => exact rest rest'

end Block

/-! ## The method -/

/-- What is done for each position: the constant is answered if it is the one that is looked for. -/
def lookupBody : Block :=
  .when (.equal (.ordinal (.element (.name "vals") (.name "i"))) (.name "o"))
    (.answer (.element (.name "vals") (.name "i"))) .done

/-- What is answered if no constant has the position. -/
def lookupFallback : Block :=
  .answer (.choice (.greater (.length (.name "vals")) (.number 0))
    (.element (.name "vals") (.number 0)) .null)

/-- The body of the lookup. -/
def lookupBlock (name : String) : Block :=
  .declare (name ++ "[]") "vals" (.values name)
    (.count "i" 0 (.length (.name "vals")) lookupBody lookupFallback)

theorem lookupLines_eq (name : String) :
    lookupLines name = indent 1 ("public static " ++ name ++ " byInt(int o) \x7b") ::
      (lookupBlock name).lines 2 ++ [indent 1 "\x7d"] := by
  have zero : Int.repr 0 = "0" := by decide
  simp [lookupLines, lookupBlock, lookupBody, lookupFallback, Block.lines, Term.spelling, indent,
    zero, ← String.toList_inj]

/-- The lines that follow the constants in the source of an enum: the lookup and the end of the
    type. -/
def lookupSource (name : String) : String :=
  joinLines (["", indent 1 ("public static " ++ name ++ " byInt(int o) \x7b")] ++
    (lookupBlock name).lines 2 ++ [indent 1 "\x7d", "\x7d"])

/-! ## What the method answers -/

/-- The constant that belongs to a position: the one at it, or else the first one, if there is
    any. -/
inductive Selects (constants : List String) (position : Int) : Value → Prop where
  | own {name : String} {ordinal : Nat} : constants[ordinal]? = some name → position = ordinal →
      Selects constants position (.constant ⟨name, ordinal⟩)
  | first {name : String} : constants[0]? = some name →
      position < 0 ∨ constants.length ≤ position →
      Selects constants position (.constant ⟨name, 0⟩)
  | nothing : constants = [] → Selects constants position .null

variable {decl : EnumClass} {o : Int}

theorem exists_selects (constants : List String) (position : Int) :
    ∃ value, Selects constants position value := by
  by_cases inside : 0 ≤ position ∧ position < constants.length
  · obtain ⟨ordinal, rfl⟩ := Int.eq_ofNat_of_zero_le inside.1
    have bounded : ordinal < constants.length := by omega
    exact ⟨_, .own (List.getElem?_eq_getElem bounded) rfl⟩
  · cases constants with
    | nil => exact ⟨_, .nothing rfl⟩
    | cons name constants => exact ⟨_, .first rfl (by omega)⟩

@[simp] theorem length_values (decl : EnumClass) : decl.values.length = decl.constants.length := by
  simp [values]

theorem getElem?_values (decl : EnumClass) (position : Nat) :
    decl.values[position]? = decl.constants[position]?.map (⟨·, position⟩) := by
  simp [values]

/-- The names in the method before anything is declared. -/
def parameters (o : Int) : Names := Names.with (fun _ => none) "o" (.number o)

/-- The names in the loop, and behind it. -/
def locals (decl : EnumClass) (o : Int) : Names :=
  (parameters o).with "vals" (.array decl.values)

theorem eval_length (names : Names) (vals : names "vals" = some (.array decl.values)) :
    (Term.length (.name "vals")).eval decl names = some (.number decl.constants.length) := by
  simp [Term.eval, vals]

theorem eval_element {names : Names} {index : Term} {position : Nat}
    (vals : names "vals" = some (.array decl.values))
    (number : index.eval decl names = some (.number position)) :
    (Term.element (.name "vals") index).eval decl names =
      decl.constants[position]?.map fun name => .constant ⟨name, position⟩ := by
  have element : (Term.element (.name "vals") index).eval decl names =
      decl.values[position]?.map .constant := by
    rw [Term.eval, number, Term.eval, vals]
  rw [element, getElem?_values, Option.map_map]
  rfl

section Loop

variable {position : Nat} {name : String}

theorem eval_condition (listed : decl.constants[position]? = some name) :
    (Term.equal (.ordinal (.element (.name "vals") (.name "i"))) (.name "o")).eval decl
        ((locals decl o).with "i" (.number position)) =
      some (.truth (position = o)) := by
  have ordinal : (Term.ordinal (.element (.name "vals") (.name "i"))).eval decl
      ((locals decl o).with "i" (.number position)) = some (.number position) := by
    rw [Term.eval, eval_element rfl rfl, listed]
    rfl
  rw [Term.eval, ordinal]
  rfl

/-- The constant at the position that is looked for is answered. -/
theorem lookupBody_answers (listed : decl.constants[position]? = some name) (found : o = position) :
    lookupBody.Runs decl ((locals decl o).with "i" (.number position))
      (some (.constant ⟨name, position⟩)) := by
  refine .whenAnswers ?_ (.answer ?_)
  · simp [eval_condition listed, found]
  · rw [eval_element rfl rfl, listed]
    rfl

theorem lookupBody_passes (listed : decl.constants[position]? = some name) (other : o ≠ position) :
    lookupBody.Runs decl ((locals decl o).with "i" (.number position)) none := by
  refine .whenSkips ?_ .done
  rw [eval_condition listed, decide_eq_false other.symm]

/-- The loop of the method, from a position on. -/
def lookupLoop (start : Nat) : Block :=
  .count "i" start (.length (.name "vals")) lookupBody lookupFallback

/-- A position that has another constant is passed. -/
theorem lookupLoop_passes {outcome : Option Value} (inside : position < decl.constants.length)
    (other : o ≠ position) (next : (lookupLoop (position + 1)).Runs decl (locals decl o) outcome) :
    (lookupLoop position).Runs decl (locals decl o) outcome :=
  .countPasses (eval_length _ rfl) (by exact_mod_cast inside)
    (lookupBody_passes (List.getElem?_eq_getElem inside) other) next

/-- From any position before it on, the loop answers the constant that is looked for. -/
theorem lookupLoop_answers {start : Nat} (before : start ≤ position)
    (listed : decl.constants[position]? = some name) (found : o = position) :
    (lookupLoop start).Runs decl (locals decl o) (some (.constant ⟨name, position⟩)) := by
  obtain ⟨inside, _⟩ := List.getElem?_eq_some_iff.mp listed
  induction before using Nat.decreasingInduction with
  | self =>
    exact .countAnswers (eval_length _ rfl) (by exact_mod_cast inside)
      (lookupBody_answers listed found)
  | of_succ start before next => exact lookupLoop_passes (by omega) (by omega) next

/-- From any position on, the loop ends if there is no constant to be found. -/
theorem lookupLoop_ends {start : Nat} {outcome : Option Value}
    (before : start ≤ decl.constants.length) (absent : o < 0 ∨ decl.constants.length ≤ o)
    (fallback : lookupFallback.Runs decl (locals decl o) outcome) :
    (lookupLoop start).Runs decl (locals decl o) outcome := by
  induction before using Nat.decreasingInduction with
  | self => exact .countEnds (eval_length _ rfl) le_rfl fallback
  | of_succ start before next => exact lookupLoop_passes before (by omega) next

end Loop

theorem eval_some :
    (Term.greater (.length (.name "vals")) (.number 0)).eval decl (locals decl o) =
      some (.truth (0 < decl.constants.length)) := by
  rw [Term.eval, eval_length _ rfl]
  simp [Term.eval]

/-- Behind the loop, the first constant is answered. -/
theorem lookupFallback_first {name : String} (listed : decl.constants[0]? = some name) :
    lookupFallback.Runs decl (locals decl o) (some (.constant ⟨name, 0⟩)) := by
  obtain ⟨inside, _⟩ := List.getElem?_eq_some_iff.mp listed
  have element : (Term.element (.name "vals") (.number 0)).eval decl (locals decl o) =
      decl.constants[0]?.map fun name => .constant ⟨name, 0⟩ := eval_element rfl rfl
  refine .answer ?_
  rw [Term.eval, eval_some, decide_eq_true inside, element, listed]
  rfl

theorem lookupFallback_nothing (empty : decl.constants = []) :
    lookupFallback.Runs decl (locals decl o) (some .null) := by
  refine .answer ?_
  rw [Term.eval, eval_some, empty]
  rfl

/-- The method answers the constant that belongs to the position, and does nothing else. -/
theorem lookup_runs_iff {outcome : Option Value} :
    (lookupBlock decl.name).Runs decl (parameters o) outcome ↔
      ∃ value, outcome = some value ∧ Selects decl.constants o value := by
  have answers {value : Value} (selects : Selects decl.constants o value) :
      (lookupBlock decl.name).Runs decl (parameters o) (some value) := by
    refine .declare (if_pos rfl) (?_ : (lookupLoop 0).Runs decl (locals decl o) (some value))
    cases selects with
    | own listed found => exact lookupLoop_answers (Nat.zero_le _) listed found
    | first listed outside =>
      exact lookupLoop_ends (Nat.zero_le _) outside (lookupFallback_first listed)
    | nothing empty =>
      refine lookupLoop_ends (Nat.zero_le _) ?_ (lookupFallback_nothing empty)
      rw [empty, List.length_nil]
      omega
  constructor
  · intro runs
    obtain ⟨value, selects⟩ := exists_selects decl.constants o
    exact ⟨value, runs.deterministic (answers selects), selects⟩
  · rintro ⟨value, rfl, selects⟩
    exact answers selects

/-- The name of the constant, if it is one. -/
def Value.constantName? : Value → Option String
  | .constant chosen => some chosen.name
  | _ => none

/-- What is answered is the constant that a wire value stands for. -/
theorem byInt?_of_selects {value : Value} (selects : Selects decl.constants o value) :
    decl.byInt? o = value.constantName? := by
  have nowhere (outside : o < 0 ∨ decl.constants.length ≤ o) :
      decl.constants.zipIdx.find? (fun constant => (constant.2 : Int) == o) = none := by
    rw [List.find?_eq_none]
    rintro ⟨name, ordinal⟩ listed
    obtain ⟨inside, _⟩ := List.getElem?_eq_some_iff.mp (List.mk_mem_zipIdx_iff_getElem?.mp listed)
    rw [beq_iff_eq]
    omega
  unfold byInt?
  cases selects with
  | @own name ordinal listed found =>
    have search := find?_zipIdx decl.constants 0 ordinal
    rw [Nat.zero_add, listed] at search
    simp [found, search, Value.constantName?]
  | first listed outside =>
    simp [nowhere outside, List.head?_eq_getElem?, listed, Value.constantName?]
  | nothing empty =>
    simp [empty, Value.constantName?]

end Output.EnumClass

/-! ## Enums -/

open Output.EnumClass in
/-- Behind the opening of its type, the source of an enum is read as its members in declaration
    order, and nothing but the lookup follows.  With the members as all constants of the enum, each
    at its place, the lookup answers the member at a position, for another position the first
    member, and null if there are no members. -/
theorem ordinals_kept (banner placement : String) (enum : EnumDecl)
    (plain : ∀ member ∈ enum.members, IsIdentifier member) :
    (∃ body, enum.source banner placement =
        joinLines ([banner, ""] ++ SourceFile.placementLines placement) ++ "public enum " ++
          enum.name ++ " \x7b" ++ body ∧
      ∀ names rest, ReadsConstants body.toList names rest ↔
        names = enum.members ∧ rest = '\n' :: (lookupSource enum.name).toList) ∧
      ∀ o outcome, (lookupBlock enum.name).Runs enum.toClass (parameters o) outcome ↔
        ∃ value, outcome = some value ∧ Selects enum.members o value := by
  refine ⟨⟨"\n" ++ joinLines (constantLines enum.members) ++ lookupSource enum.name, ?_,
    fun names rest => ?_⟩, fun o outcome => lookup_runs_iff⟩
  · simp [EnumDecl.source, SourceFile.text, SourceFile.importLines, EnumClass.lines, lookupLines_eq,
      lookupSource, EnumDecl.toClass, Output.joinLines_append, joinLines_cons, ← String.toList_inj]
  · have reads : ReadsConstants
        ("\n" ++ joinLines (constantLines enum.members) ++ lookupSource enum.name).toList
        enum.members ('\n' :: (lookupSource enum.name).toList) := by
      simpa using readsConstants_constantLines plain (lookupSource enum.name).toList
    refine ⟨fun reads' => reads'.unique reads, ?_⟩
    rintro ⟨rfl, rfl⟩
    exact reads

namespace Sample

def grade : EnumDecl := .ofMembers "Grade" ["Low", "Mid", "High"]

end Sample

open Sample Output.EnumClass in
/-- Three grades: the last one is found by its position, and the first one for any other number. -/
theorem ordinals_kept_grades :
    (∃ body, grade.source "" "school" =
        joinLines (["", ""] ++ SourceFile.placementLines "school") ++ "public enum " ++ "Grade" ++
          " \x7b" ++ body ∧
      ReadsConstants body.toList ["Low", "Mid", "High"] ('\n' :: (lookupSource "Grade").toList)) ∧
    (lookupBlock "Grade").Runs grade.toClass (parameters 2) (some (.constant ⟨"High", 2⟩)) ∧
    (lookupBlock "Grade").Runs grade.toClass (parameters (-1)) (some (.constant ⟨"Low", 0⟩)) := by
  obtain ⟨⟨body, whole, reads⟩, runs⟩ := ordinals_kept "" "school" grade (by decide)
  refine ⟨⟨body, whole, (reads _ _).mpr ⟨rfl, rfl⟩⟩, ?_, ?_⟩
  · exact (runs 2 _).mpr ⟨_, rfl, .own rfl rfl⟩
  · exact (runs (-1) _).mpr ⟨_, rfl, .first rfl (.inl (by decide))⟩

end WireSchema
