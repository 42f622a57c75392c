import WireSchema.Proofs.Execution

/-! # Sequences of calls

Methods of a generated class are called on one instance, one after the other.  A call is taken
apart into its steps, and stops at the first step that answers or fails.  What was done until then
stays done.

* `Body.steps` are the statements that a body comes to, each with its frame.
* `History` is an instance after some calls, with the statements that were run on it.
* `perform_of_call` and `state_history` — calls that complete leave what their methods leave.
* `ClassDecl.history_of_forall₂` — two libraries whose calls take like steps have one history.
-/

namespace WireSchema

open Output Execution

variable {Ω W : Type}

/-! ## Steps and histories -/

namespace Execution

/-- A statement in the frame that it is run in. -/
structure Step (Ω W : Type) where
  frame : Frame Ω W
  statement : Statement

def Step.effect (step : Step Ω W) (state : State Ω W) : Option (State Ω W) :=
  step.statement.effect step.frame state

/-- Two steps run one statement, with the same effect on every state. -/
structure Step.Like (step other : Step Ω W) : Prop where
  statement : step.statement = other.statement
  effect : ∀ state, step.effect state = other.effect state

/-- An instance after some calls, with the statements that were run on it. -/
structure History (Ω W : Type) where
  state : State Ω W
  done : List Statement

namespace History

def advance (history : History Ω W) (step : Step Ω W) : Option (History Ω W) := do
  let state ← step.effect history.state
  return ⟨state, history.done ++ [step.statement]⟩

/-- Goes on with steps, up to the first that answers or fails. -/
def proceed (history : History Ω W) : List (Step Ω W) → History Ω W
  | [] => history
  | step :: steps =>
    match history.advance step with
    | none => history
    | some next => next.proceed steps

/-- Some value was stored in a member. -/
def Assigned (history : History Ω W) (member : String) : Prop :=
  ∃ value, .assign member value ∈ history.done

variable {history : History Ω W} {step : Step Ω W} {steps others : List (Step Ω W)}
  {state : State Ω W}

theorem proceed_cons_of_effect (effect : step.effect history.state = some state) :
    history.proceed (step :: steps) =
      (⟨state, history.done ++ [step.statement]⟩ : History Ω W).proceed steps := by
  rw [proceed, advance, effect]
  rfl

theorem proceed_cons_of_stop (stop : step.effect history.state = none) :
    history.proceed (step :: steps) = history := by
  rw [proceed, advance, stop]
  rfl

/-- Steps that all have an effect are all done. -/
theorem proceed_of_foldlM
    (run : steps.foldlM (fun state step => step.effect state) history.state = some state) :
    history.proceed steps = ⟨state, history.done ++ steps.map (·.statement)⟩ := by
  induction steps generalizing history with
  | nil =>
    cases run
    rw [List.map_nil, List.append_nil]
    rfl
  | cons step steps inductionHypothesis =>
    rw [List.foldlM_cons, Option.bind_eq_bind, Option.bind_eq_some_iff] at run
    obtain ⟨next, effect, rest⟩ := run
    rw [proceed_cons_of_effect effect, inductionHypothesis rest, List.append_assoc]
    rfl

theorem proceed_congr (like : List.Forall₂ Step.Like steps others) :
    history.proceed steps = history.proceed others := by
  induction like generalizing history with
  | nil => rfl
  | @cons step other steps others like _ inductionHypothesis =>
    cases effect : step.effect history.state with
    | none =>
      rw [proceed_cons_of_stop effect, proceed_cons_of_stop (like.effect _ ▸ effect)]
    | some state =>
      rw [proceed_cons_of_effect effect, proceed_cons_of_effect (like.effect _ ▸ effect),
        like.statement]
      exact inductionHypothesis

end History

end Execution

/-! ## Bodies -/

/-- The statements of the case of a tag.  A tag without a case has none. -/
def caseStatements (cases : List Case) (tag : UInt16) : List Statement :=
  match cases.find? (·.tag == tag) with
  | none => []
  | some found => found.statements

theorem runCase_eq (frame : Frame Ω W) (cases : List Case) (tag : UInt16) (state : State Ω W) :
    runCase frame cases tag state =
      (caseStatements cases tag).foldlM (Statement.effect frame) state := by
  unfold runCase caseStatements
  cases cases.find? (·.tag == tag) with
  | none => rfl
  | some found => rfl

/-- The statements for a tag are those of a case with this tag, or else there is no such case. -/
theorem caseStatements_map (caseOf : BoundField → Case)
    (tagged : ∀ bound, (caseOf bound).tag = bound.field.tag) (fields : List BoundField)
    (tag : UInt16) :
    (caseStatements (fields.map caseOf) tag = [] ∧ tag ∉ fields.map (·.field.tag)) ∨
      ∃ bound ∈ fields, bound.field.tag = tag ∧
        caseStatements (fields.map caseOf) tag = (caseOf bound).statements := by
  unfold caseStatements
  cases found : (fields.map caseOf).find? (·.tag == tag) with
  | none =>
    refine .inl ⟨rfl, fun listed => ?_⟩
    obtain ⟨bound, member, rfl⟩ := List.mem_map.mp listed
    exact List.find?_eq_none.mp found _ (List.mem_map_of_mem member)
      (beq_iff_eq.mpr (tagged bound))
  | some chosen =>
    obtain ⟨bound, member, rfl⟩ := List.mem_map.mp (List.mem_of_find?_eq_some found)
    have holds := List.find?_some found
    exact .inr ⟨bound, member, (tagged bound).symm.trans (beq_iff_eq.mp holds), rfl⟩

/-- The steps of a body, on an instance that is about to run it. -/
def Output.Body.steps (frame : Frame Ω W) (self : Instance Ω) : Body → List (Step Ω W)
  | .statements list => list.map (Step.mk frame)
  | .eachWireTag cases =>
    match frame.lookup self "decoder" with
    | some (.decoder wire) =>
      let tags := frame.library.tags wire
      tags.zipIdx.flatMap fun round =>
        (caseStatements cases round.1).map (Step.mk (frame.atWireTag tags round.1 round.2))
    | _ => []
  | .eachPresentTag cases =>
    match frame.lookup self presenceMember with
    | some .bitmap =>
      (frame.library.visit self.present).flatMap fun tag =>
        (caseStatements cases tag).map (Step.mk (frame.atPresentTag tag))
    | _ => []

/-- The variables of a loop over the wire hide none but their own names. -/
theorem lookup_atWireTag {frame : Frame Ω W} {self : Instance Ω} {id : String}
    (apart : id ∉ ["i", "present"]) (tags : List UInt16) (tag : UInt16) (round : Nat) :
    (frame.atWireTag tags tag round).lookup self id = frame.lookup self id := by
  simp only [List.mem_cons, List.not_mem_nil, or_false, not_or] at apart
  have passed : (frame.atWireTag tags tag round).locals.lookup id = frame.locals.lookup id := by
    simp only [Frame.atWireTag, Frame.declare, List.cons_append, List.nil_append,
      List.lookup_cons, beq_false_of_ne apart.1, beq_false_of_ne apart.2]
  unfold Frame.lookup
  rw [passed]
  rfl

/-! ## Calls -/

/-- A method, by its name, and what is handed to it. -/
structure Execution.Call (Ω W : Type) where
  method : String
  arguments : List (Slot Ω W)

/-- The frame of a method. -/
def Output.Method.frame (library : Library Ω W) (decl : ClassDecl) (method : Method)
    (arguments : List (Slot Ω W)) : Frame Ω W where
  library := library
  decl := decl
  locals := (method.parameters.map (·.name)).zip arguments
  position := none

namespace Output.ClassDecl

/-- The steps of a call, on an instance that is about to be called.  There are none if the class
    does not have such a method. -/
def steps (library : Library Ω W) (decl : ClassDecl) (call : Call Ω W) (self : Instance Ω) :
    List (Step Ω W) :=
  match decl.methods.find? (·.name == call.method) with
  | none => []
  | some method =>
    if method.parameters.length = call.arguments.length then
      method.body.steps (method.frame library decl call.arguments) self
    else []

def perform (library : Library Ω W) (decl : ClassDecl) (history : History Ω W)
    (call : Call Ω W) : History Ω W :=
  history.proceed (decl.steps library call history.state.self)

/-- A fresh instance after some calls.  All of them share an encoder. -/
def history (library : Library Ω W) (decl : ClassDecl) (calls : List (Call Ω W)) :
    History Ω W :=
  calls.foldl (decl.perform library) ⟨⟨decl.fresh, library.blank⟩, []⟩

/-- The steps of a call are those of some method of the class, in a frame with its parameters, or
    else there are none. -/
theorem steps_cases (library : Library Ω W) (decl : ClassDecl) (call : Call Ω W)
    (self : Instance Ω) :
    decl.steps library call self = [] ∨
      ∃ method ∈ decl.methods, method.parameters.length = call.arguments.length ∧
        decl.steps library call self =
          method.body.steps (method.frame library decl call.arguments) self := by
  unfold steps
  cases found : decl.methods.find? (·.name == call.method) with
  | none => exact .inl rfl
  | some method =>
    dsimp only
    by_cases lengths : method.parameters.length = call.arguments.length
    · rw [if_pos lengths]
      exact .inr ⟨method, List.mem_of_find?_eq_some found, lengths, rfl⟩
    · rw [if_neg lengths]
      exact .inl rfl

end Output.ClassDecl

theorem Output.Method.locals_frame {library : Library Ω W} {decl : ClassDecl} {method : Method}
    {arguments : List (Slot Ω W)} (lengths : method.parameters.length = arguments.length) :
    (method.frame library decl arguments).locals.map Prod.fst =
      method.parameters.map (·.name) := by
  refine List.map_fst_zip ?_
  rw [List.length_map, lengths]

/-! ## Calls that complete -/

section Completion

variable {library : Library Ω W} {frame : Frame Ω W} {history : History Ω W} {out : State Ω W}
  {answer : Option (Value Ω)}

/-- A loop over cases is a run through their statements. -/
theorem foldlM_runCase {ι : Type} (rounds : List ι) (frameOf : ι → Frame Ω W)
    (cases : List Case) (tagOf : ι → UInt16) (state : State Ω W) :
    rounds.foldlM (fun state round => runCase (frameOf round) cases (tagOf round) state) state =
      (rounds.flatMap fun round =>
        (caseStatements cases (tagOf round)).map (Step.mk (frameOf round))).foldlM
        (fun state step => step.effect state) state := by
  induction rounds generalizing state with
  | nil => rfl
  | cons round rounds inductionHypothesis =>
    rw [List.foldlM_cons, List.flatMap_cons, List.foldlM_append, List.foldlM_map, runCase_eq]
    exact congrArg (Option.bind _) (funext inductionHypothesis)

/-- What is left of statements that were run is what they leave, and if there was no answer, all
    of them were done. -/
theorem proceed_of_runStatements {list : List Statement}
    (run : runStatements frame list history.state = some (out, answer)) :
    (history.proceed (list.map (Step.mk frame))).state = out ∧
      (answer = none →
        (history.proceed (list.map (Step.mk frame))).done = history.done ++ list) := by
  induction list generalizing history with
  | nil =>
    cases run
    exact ⟨rfl, fun _ => (List.append_nil _).symm⟩
  | cons statement list inductionHypothesis =>
    cases statement with
    | answer value =>
      -- an answer is the end of the run, and no step
      rw [runStatements, Option.map_eq_some_iff] at run
      obtain ⟨_, _, ended⟩ := run
      cases ended
      rw [List.map_cons, History.proceed_cons_of_stop rfl]
      exact ⟨rfl, nofun⟩
    | assign | markPresent | write =>
      rw [runStatements, Option.bind_eq_bind, Option.bind_eq_some_iff] at run
      · obtain ⟨next, effect, rest⟩ := run
        replace effect : Step.effect ⟨frame, _⟩ history.state = some next := effect
        rw [List.map_cons, History.proceed_cons_of_effect effect, List.append_cons _ _ list]
        exact @inductionHypothesis ⟨next, _⟩ rest
      · nofun

/-- What is left of a body that was run is what its steps leave, and if there was no answer, all
    of its steps were done. -/
theorem proceed_of_run {body : Body} (run : body.run frame history.state = some (out, answer)) :
    (history.proceed (body.steps frame history.state.self)).state = out ∧
      (answer = none → (history.proceed (body.steps frame history.state.self)).done =
        history.done ++ (body.steps frame history.state.self).map (·.statement)) := by
  cases body with
  | statements list =>
    have statements : (list.map (Step.mk frame)).map (·.statement) = list := by
      rw [List.map_map]
      exact List.map_id list
    have left := proceed_of_runStatements run
    rw [Body.steps, statements]
    exact left
  | eachWireTag cases =>
    simp only [Body.run] at run
    split at run
    · next wire decoder =>
      obtain ⟨state, loop, ended⟩ := Option.map_eq_some_iff.mp run
      cases ended
      let frameOf (round : UInt16 × Nat) :=
        frame.atWireTag (frame.library.tags wire) round.1 round.2
      replace loop := (foldlM_runCase _ frameOf cases Prod.fst _).symm.trans loop
      simp only [Body.steps, decoder]
      rw [History.proceed_of_foldlM loop]
      exact ⟨rfl, fun _ => rfl⟩
    · cases run
  | eachPresentTag cases =>
    simp only [Body.run] at run
    split at run
    · next bitmap =>
      obtain ⟨state, loop, ended⟩ := Option.map_eq_some_iff.mp run
      cases ended
      rw [foldlM_runCase] at loop
      simp only [Body.steps, bitmap]
      rw [History.proceed_of_foldlM loop]
      exact ⟨rfl, fun _ => rfl⟩
    · cases run

variable {decl : ClassDecl} {call : Call Ω W}

/-- A call that completes leaves what its method leaves, and if it does not answer, all of its
    steps are done. -/
theorem perform_of_call
    (called : decl.call library call.method call.arguments history.state = some (out, answer)) :
    (decl.perform library history call).state = out ∧
      (answer = none → (decl.perform library history call).done =
        history.done ++ (decl.steps library call history.state.self).map (·.statement)) := by
  unfold ClassDecl.call at called
  rw [Option.bind_eq_bind, Option.bind_eq_some_iff] at called
  obtain ⟨method, found, run⟩ := called
  split at run
  · next lengths =>
    have steps : decl.steps library call history.state.self =
        method.body.steps (method.frame library decl call.arguments) history.state.self := by
      rw [ClassDecl.steps, found]
      exact if_pos lengths
    rw [ClassDecl.perform, steps]
    exact proceed_of_run run
  · cases run

/-- After calls that all complete, an instance is what the calls made of it. -/
theorem state_history {calls : List (Call Ω W)}
    (completed : calls.foldlM (fun state call =>
        (decl.call library call.method call.arguments state).map Prod.fst)
      ⟨decl.fresh, library.blank⟩ = some out) :
    (decl.history library calls).state = out := by
  -- the calls that remain go on from any history that has come to their start
  suffices from_history : ∀ history : History Ω W, calls.foldlM (fun state call =>
      (decl.call library call.method call.arguments state).map Prod.fst) history.state = some out →
      (calls.foldl (decl.perform library) history).state = out from from_history ⟨_, []⟩ completed
  clear completed
  induction calls with
  | nil =>
    intro history completed
    exact Option.some.inj completed
  | cons call calls inductionHypothesis =>
    intro history completed
    rw [List.foldlM_cons, Option.bind_eq_bind, Option.bind_eq_some_iff] at completed
    obtain ⟨next, first, rest⟩ := completed
    obtain ⟨⟨left, answer⟩, called, rfl⟩ := Option.map_eq_some_iff.mp first
    apply inductionHypothesis
    rwa [(perform_of_call called).1]

end Completion

/-- Two libraries whose calls take like steps, from like starts, have one history. -/
theorem Output.ClassDecl.history_of_forall₂ {library other : Library Ω W} {decl : ClassDecl}
    (blank : library.blank = other.blank)
    (like : ∀ call self, List.Forall₂ Step.Like (decl.steps library call self)
      (decl.steps other call self)) (calls : List (Call Ω W)) :
    decl.history library calls = decl.history other calls := by
  have same : decl.perform library = decl.perform other :=
    funext fun history => funext fun call => History.proceed_congr (like call _)
  rw [history, history, same, blank]

end WireSchema
