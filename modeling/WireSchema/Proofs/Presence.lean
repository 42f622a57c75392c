import WireSchema.Proofs.UnknownTags
import WireSchema.Proofs.WireRoundTrip

/-! # Presence of fields

The presence bitmap of an instance knows which members were ever assigned, whatever is called on
the instance.

* `Paired` — members are assigned together with their tags: so do all methods of a class.
* `Tracks` — the bitmap knows what was assigned: so it does after every call.
* `WritesOnce` — every field that is set is written once: so it is by an instance.
* `presence_tracks_assignments` — all of this for the class of a struct, and what it writes.
-/

namespace WireSchema

open Output Execution

variable {Ω W : Type} {library : Library Ω W} {name : String} {fields : List BoundField}

/-! ## Assignments and tags -/

/-- Steps that assign the members of fields together with their tags, and assign nothing else. -/
inductive Paired (fields : List BoundField) : List (Step Ω W) → Prop where
  | nil : Paired fields []
  | store {frame : Frame Ω W} {bound : BoundField} {value : Expression} {steps : List (Step Ω W)} :
      bound ∈ fields → (∀ self, frame.lookup self presenceMember = some .bitmap) →
      Paired fields steps →
      Paired fields (⟨frame, .assign bound.field.name value⟩ ::
        ⟨frame, .markPresent bound.field.tag⟩ :: steps)
  | answer {frame : Frame Ω W} {value : Expression} {steps : List (Step Ω W)} :
      Paired fields steps → Paired fields (⟨frame, .answer value⟩ :: steps)
  | write {frame : Frame Ω W} {call : WriteCall} {steps : List (Step Ω W)} :
      Paired fields steps → Paired fields (⟨frame, .write call⟩ :: steps)

namespace Paired

variable {steps others : List (Step Ω W)}

theorem append (paired : Paired fields steps) (rest : Paired fields others) :
    Paired fields (steps ++ others) := by
  induction paired with
  | nil => exact rest
  | store member bitmap _ inductionHypothesis => exact .store member bitmap inductionHypothesis
  | answer _ inductionHypothesis => exact .answer inductionHypothesis
  | write _ inductionHypothesis => exact .write inductionHypothesis

theorem flatMap {ι : Type} {rounds : List ι} {stepsOf : ι → List (Step Ω W)}
    (paired : ∀ round, Paired fields (stepsOf round)) :
    Paired fields (rounds.flatMap stepsOf) := by
  induction rounds with
  | nil => exact .nil
  | cons round rounds inductionHypothesis => exact (paired round).append inductionHypothesis

/-- The steps for a tag are paired if those of all cases are. -/
theorem ofCases {caseOf : BoundField → Case} {frame : Frame Ω W}
    (tagged : ∀ bound, (caseOf bound).tag = bound.field.tag)
    (paired : ∀ bound ∈ fields, Paired fields ((caseOf bound).statements.map (Step.mk frame)))
    (tag : UInt16) :
    Paired fields ((caseStatements (fields.map caseOf) tag).map (Step.mk frame)) := by
  obtain ⟨none, _⟩ | ⟨bound, member, _, statements⟩ := caseStatements_map caseOf tagged fields tag
  · rw [none]
    exact .nil
  · rw [statements]
    exact paired bound member

end Paired

/-- No method has a parameter that hides the presence bitmap. -/
theorem lookup_presence_of_method {method : Method} {arguments : List (Slot Ω W)}
    (lengths : method.parameters.length = arguments.length)
    (visible : presenceMember ∉ method.parameters.map (·.name)) (self : Instance Ω) :
    (method.frame library (structClass name fields) arguments).lookup self presenceMember =
      some .bitmap := by
  refine Frame.lookup_presence ?_ (presence_mem_memberNames name fields)
  rwa [Method.locals_frame lengths]

/-- All methods of a class assign members together with their tags. -/
theorem paired_steps (call : Call Ω W) (self : Instance Ω) :
    Paired fields ((structClass name fields).steps library call self) := by
  obtain none | ⟨method, declared, lengths, steps⟩ :=
    ClassDecl.steps_cases library (structClass name fields) call self
  · rw [none]
    exact .nil
  · rw [steps]
    have bitmap (visible : presenceMember ∉ method.parameters.map (·.name)) (self : Instance Ω) :
        (method.frame library (structClass name fields) call.arguments).lookup self
          presenceMember = some .bitmap := lookup_presence_of_method lengths visible self
    obtain ⟨bound, member, accessor⟩ | rfl | rfl := mem_methods.mp declared
    · obtain rfl | rfl | rfl | ⟨fixed, _, rfl | rfl⟩ := BoundField.mem_accessors.mp accessor
      · exact .answer .nil
      · exact .store member (bitmap (show presenceMember ∉ ["val"] by decide)) .nil
      · exact .answer .nil
      · exact .store member (bitmap (show presenceMember ∉ ["val"] by decide)) .nil
      · exact .answer .nil
    · simp only [decodeMethod, Body.steps]
      split
      · refine .flatMap fun round => .ofCases (fun _ => rfl) (fun bound member => ?_) round.1
        refine .store member (fun self => ?_) .nil
        rw [lookup_atWireTag (by decide)]
        exact bitmap (show presenceMember ∉ ["decoder"] by decide) self
      · exact .nil
    · simp only [encodeMethod, Body.steps]
      split
      · exact .flatMap fun tag => .ofCases (fun _ => rfl) (fun _ _ => .write .nil) tag
      · exact .nil

/-! ## The bitmap -/

theorem effect_assign_eq_some {frame : Frame Ω W} {state next : State Ω W} {member : String}
    {value : Expression}
    (effect : Step.effect ⟨frame, .assign member value⟩ state = some next) :
    ∃ stored, next = { state with self := state.self.assign member stored } := by
  simp only [Step.effect, Statement.effect, Option.bind_eq_bind, Option.bind_eq_some_iff] at effect
  obtain ⟨stored, _, effect⟩ := effect
  split at effect
  · exact ⟨stored, (Option.some.inj effect).symm⟩
  · cases effect

theorem self_of_effect_write {frame : Frame Ω W} {state next : State Ω W} {call : WriteCall}
    (effect : Step.effect ⟨frame, .write call⟩ state = some next) : next.self = state.self := by
  simp only [Step.effect, Statement.effect] at effect
  split at effect
  · simp only [Option.bind_eq_bind, Option.bind_eq_some_iff] at effect
    obtain ⟨_, _, _, _, written⟩ := effect
    cases written
    rfl
  · cases effect

/-- The bitmap of an instance knows which of its members were assigned, and holds no other
    tags. -/
structure Tracks (fields : List BoundField) (history : History Ω W) : Prop where
  assigned : ∀ bound ∈ fields,
    bound.field.tag ∈ history.state.self.present ↔ history.Assigned bound.field.name
  declared : ∀ tag ∈ history.state.self.present, tag ∈ fields.map (·.field.tag)

namespace Tracks

variable {history : History Ω W} {bound : BoundField} {value : Value Ω} {expression : Expression}
  {steps : List (Step Ω W)}

/-- An assignment together with its tag keeps the bitmap right. -/
theorem store (tracks : Tracks fields history) (distinct : (fields.map (·.field.tag)).Nodup)
    (named : (fields.map (·.field.name)).Nodup) (member : bound ∈ fields) :
    Tracks fields
      ⟨{ history.state with
          self := (history.state.self.assign bound.field.name value).mark bound.field.tag },
        history.done ++ [.assign bound.field.name expression] ++
          [.markPresent bound.field.tag]⟩ where
  assigned other listed := by
    -- tags and names both tell fields apart
    have same : other.field.tag = bound.field.tag ↔ other.field.name = bound.field.name := by
      constructor
      · intro tags
        rw [List.inj_on_of_nodup_map distinct listed member tags]
      · intro names
        rw [List.inj_on_of_nodup_map named listed member names]
    change other.field.tag ∈ insert bound.field.tag history.state.self.present ↔ _
    rw [Finset.mem_insert, same, tracks.assigned other listed]
    simp only [History.Assigned, List.mem_append, List.mem_singleton, reduceCtorEq, or_false,
      Statement.assign.injEq, exists_or, exists_and_left, exists_eq, and_true]
    exact Or.comm
  declared tag marked := by
    change tag ∈ insert bound.field.tag history.state.self.present at marked
    obtain rfl | earlier := Finset.mem_insert.mp marked
    · exact List.mem_map_of_mem member
    · exact tracks.declared tag earlier

/-- A step that assigns nothing, and leaves the object as it is, keeps the bitmap right. -/
theorem keep {state : State Ω W} {statement : Statement} (tracks : Tracks fields history)
    (self : state.self = history.state.self)
    (apart : ∀ member value, statement ≠ .assign member value) :
    Tracks fields ⟨state, history.done ++ [statement]⟩ where
  assigned bound member := by
    dsimp only
    rw [self, tracks.assigned bound member]
    simp only [History.Assigned, List.mem_append, List.mem_singleton]
    exact exists_congr fun value => (or_iff_left (apart _ value).symm).symm
  declared := by
    dsimp only
    rw [self]
    exact tracks.declared

/-- Steps that assign members together with their tags keep the bitmap right, wherever they
    stop. -/
theorem proceed (tracks : Tracks fields history) (distinct : (fields.map (·.field.tag)).Nodup)
    (named : (fields.map (·.field.name)).Nodup) (paired : Paired fields steps) :
    Tracks fields (history.proceed steps) := by
  -- a pair runs as a whole or not at all, since only its first step can fail
  induction paired generalizing history with
  | nil => exact tracks
  | @store frame bound expression steps member bitmap _ inductionHypothesis =>
    cases effect : Step.effect ⟨frame, .assign bound.field.name expression⟩ history.state with
    | none => rwa [History.proceed_cons_of_stop effect]
    | some state =>
      have marked : Step.effect ⟨frame, .markPresent bound.field.tag⟩ state =
          some { state with self := state.self.mark bound.field.tag } :=
        Statement.effect_markPresent (bitmap _)
      rw [History.proceed_cons_of_effect effect, History.proceed_cons_of_effect marked]
      obtain ⟨value, rfl⟩ := effect_assign_eq_some effect
      exact inductionHypothesis (tracks.store distinct named member)
  | answer => rwa [History.proceed_cons_of_stop rfl]
  | @write frame call steps _ inductionHypothesis =>
    cases effect : Step.effect ⟨frame, .write call⟩ history.state with
    | none => rwa [History.proceed_cons_of_stop effect]
    | some state =>
      rw [History.proceed_cons_of_effect effect]
      exact inductionHypothesis (tracks.keep (self_of_effect_write effect) nofun)

end Tracks

/-- Whatever is called, the bitmap knows what was assigned. -/
theorem tracks_history (distinct : (fields.map (·.field.tag)).Nodup)
    (named : (fields.map (·.field.name)).Nodup) (calls : List (Call Ω W)) :
    Tracks fields ((structClass name fields).history library calls) := by
  have start : Tracks fields
      (⟨⟨(structClass name fields).fresh, library.blank⟩, []⟩ : History Ω W) := by
    constructor <;> simp [ClassDecl.fresh, History.Assigned]
  unfold ClassDecl.history
  generalize (⟨⟨(structClass name fields).fresh, library.blank⟩, []⟩ : History Ω W) = history
    at start ⊢
  induction calls generalizing history with
  | nil => exact start
  | cons call calls inductionHypothesis =>
    exact inductionHypothesis _ (start.proceed distinct named (paired_steps call _))

/-! ## Accessors -/

/-- Where methods are told apart, an accessor is found by its name. -/
theorem find?_accessor {bound : BoundField} {method : Method}
    (distinct : ((structClass name fields).methods.map (·.name)).Nodup) (member : bound ∈ fields)
    (accessor : method ∈ bound.accessors) :
    (structClass name fields).methods.find? (·.name == method.name) = some method :=
  find?_eq_some_of_nodup distinct (mem_methods.mpr (.inl ⟨bound, member, accessor⟩))

/-- The presence check of a field looks its tag up in the bitmap. -/
theorem call_presenceCheck {bound : BoundField}
    (distinct : ((structClass name fields).methods.map (·.name)).Nodup) (member : bound ∈ fields)
    (state : State Ω W) :
    (structClass name fields).call library (presenceName bound.field.name) [] state =
      some (state, some (.single (.boolean (bound.field.tag ∈ state.self.present)))) := by
  have found : (structClass name fields).methods.find? (·.name == presenceName bound.field.name) =
      some bound.presenceCheck :=
    find?_accessor distinct member (BoundField.mem_accessors.mpr (.inr (.inr (.inl rfl))))
  let frame := bound.presenceCheck.frame library (structClass name fields) []
  have bitmap : frame.lookup state.self presenceMember = some .bitmap :=
    lookup_presence_of_method rfl List.not_mem_nil state.self
  have run : runStatements frame [.answer (.isPresent bound.field.tag)] state =
      some (state, some (.single (.boolean (bound.field.tag ∈ state.self.present)))) := by
    simp only [runStatements, Expression.run, bitmap]
    rfl
  rw [ClassDecl.call, found]
  exact run

/-- The setter of a field assigns the field's member. -/
theorem assigned_of_setter {bound : BoundField}
    (distinct : ((structClass name fields).methods.map (·.name)).Nodup) (member : bound ∈ fields)
    (value : Value Ω) (history : History Ω W) :
    ((structClass name fields).perform library history
      ⟨setterName bound.field.name, [.value value]⟩).Assigned bound.field.name := by
  have found : (structClass name fields).methods.find? (·.name == setterName bound.field.name) =
      some bound.setter :=
    find?_accessor distinct member (BoundField.mem_accessors.mpr (.inr (.inl rfl)))
  let frame := bound.setter.frame library (structClass name fields) [.value value]
  let store : Step Ω W := ⟨frame, .assign bound.field.name (.name "val")⟩
  let mark : Step Ω W := ⟨frame, .markPresent bound.field.tag⟩
  have stored : store.effect history.state =
      some { history.state with self := history.state.self.assign bound.field.name value } :=
    Statement.effect_assign rfl (mem_memberNames name member)
  have steps : (structClass name fields).steps library
      ⟨setterName bound.field.name, [.value value]⟩ history.state.self = [store, mark] := by
    rw [ClassDecl.steps, found]
    rfl
  have visible : presenceMember ∉ bound.setter.parameters.map (·.name) :=
    show presenceMember ∉ ["val"] by decide
  have marked (state : State Ω W) : mark.effect state =
      some { state with self := state.self.mark bound.field.tag } :=
    Statement.effect_markPresent (lookup_presence_of_method rfl visible _)
  rw [ClassDecl.perform, steps, History.proceed_cons_of_effect stored,
    History.proceed_cons_of_effect (marked _)]
  exact ⟨.name "val", List.mem_append_left _ (List.mem_append_right _ List.mem_cons_self)⟩

/-! ## Writing -/

/-- Each of some fields that is set is written exactly once, under its own tag and from its own
    member, and nothing else is written. -/
structure WritesOnce (fields : List Field) (set : Field → Prop) (writes : List WriteCall) :
    Prop where
  once : (writes.map (·.tag)).Nodup
  complete : ∀ field ∈ fields, set field →
    ∃ call ∈ writes, call.tag = field.tag ∧ call.member = field.name
  sound : ∀ call ∈ writes,
    ∃ field ∈ fields, set field ∧ call.tag = field.tag ∧ call.member = field.name

/-- What a wire becomes when a call writes a member of an object to it. -/
def Output.WriteCall.writeTo (library : Library Ω W) (source : Instance Ω) (wire : W)
    (call : WriteCall) : Option W :=
  (call.payload? library (source.members call.member)).map (library.write wire call.tag)

/-- Visits to tags of fields write the members of these fields, one after the other. -/
theorem exists_writes (library : Library Ω W) (name : String) (tags : List UInt16)
    (source : Instance Ω) (distinct : (fields.map (·.field.tag)).Nodup)
    (free : ∀ bound ∈ fields, bound.field.name ∉ ["tag", "encoder", presenceMember])
    (own : ∀ bound ∈ fields, bound.binding.write.tag = bound.field.tag ∧
      bound.binding.write.member = bound.field.name)
    (declared : ∀ tag ∈ tags, tag ∈ fields.map (·.field.tag)) :
    ∃ writes : List WriteCall, writes.map (·.tag) = tags ∧
      (∀ call ∈ writes, ∃ bound ∈ fields, call.tag = bound.field.tag ∧
        call.member = bound.field.name) ∧
      tags.flatMap (caseStatements (fields.map BoundField.writeCase)) =
        writes.map Statement.write ∧
      ∀ output, tags.foldlM (fun state tag =>
          runCase ((encodeFrame library (structClass name fields)).atPresentTag tag)
            (fields.map BoundField.writeCase) tag state) ⟨source, output⟩ =
        (writes.foldlM (WriteCall.writeTo library source) output).map (⟨source, ·⟩) := by
  induction tags with
  | nil => exact ⟨[], rfl, by simp, rfl, fun _ => rfl⟩
  | cons tag tags inductionHypothesis =>
    obtain ⟨writes, listed, sound, statements, loop⟩ := inductionHypothesis
      fun tag later => declared tag (List.mem_cons_of_mem _ later)
    obtain ⟨bound, member, rfl⟩ := List.mem_map.mp (declared tag List.mem_cons_self)
    obtain ⟨sameTag, sameMember⟩ := own bound member
    refine ⟨bound.binding.write :: writes, ?_, ?_, ?_, fun output => ?_⟩
    · rw [List.map_cons, listed, sameTag]
    · exact List.forall_mem_cons.mpr ⟨⟨bound, member, sameTag, sameMember⟩, sound⟩
    · have found : (fields.map BoundField.writeCase).find? (·.tag == bound.field.tag) =
          some bound.writeCase := find?_case (fun _ => rfl) distinct member
      rw [List.flatMap_cons, statements, caseStatements, found]
      rfl
    · rw [List.foldlM_cons, List.foldlM_cons,
        runCase_write_eq distinct member (free bound member) ⟨sameTag, sameMember⟩,
        WriteCall.writeTo, sameTag, sameMember]
      cases bound.binding.write.payload? library (source.members bound.field.name) with
      | none => rfl
      | some payload => exact loop _

/-- The call that writes an object. -/
def encodeCall : Call Ω W := ⟨"encode", [.encoder]⟩

/-- Writing an object comes to the statements for all tags in its bitmap. -/
theorem steps_encodeCall (self : Instance Ω) :
    ((structClass name fields).steps library encodeCall self).map (·.statement) =
      (library.visit self.present).flatMap
        (caseStatements (fields.map BoundField.writeCase)) := by
  let frame := (encodeMethod fields).frame library (structClass name fields) [.encoder]
  have visible : presenceMember ∉ (encodeMethod fields).parameters.map (·.name) := by
    change presenceMember ∉ ["encoder"]
    decide
  have bitmap : frame.lookup self presenceMember = some .bitmap :=
    lookup_presence_of_method rfl visible self
  have steps : (structClass name fields).steps library encodeCall self =
      (encodeMethod fields).body.steps frame self := by
    rw [ClassDecl.steps, encodeCall, find?_method.2]
    rfl
  rw [steps]
  simp only [encodeMethod, Body.steps, bitmap]
  rw [List.map_flatMap]
  refine congrArg (List.flatMap · _) (funext fun tag => ?_)
  rw [List.map_map]
  exact List.map_id _

/-- An instance writes the members of the tags in its bitmap. -/
theorem exists_writesOnce {history : History Ω W} (tracks : Tracks fields history)
    (visitsOnce : ∀ present, (library.visit present).Nodup)
    (visitsAll : ∀ present tag, tag ∈ library.visit present ↔ tag ∈ present)
    (distinct : (fields.map (·.field.tag)).Nodup)
    (free : ∀ bound ∈ fields, bound.field.name ∉ ["tag", "encoder", presenceMember])
    (own : ∀ bound ∈ fields, bound.binding.write.tag = bound.field.tag ∧
      bound.binding.write.member = bound.field.name) :
    ∃ writes, WritesOnce (fields.map (·.field)) (fun field => history.Assigned field.name) writes ∧
      ((structClass name fields).steps library encodeCall history.state.self).map (·.statement) =
        writes.map .write ∧
      ∀ output, (structClass name fields).call library "encode" [.encoder]
          ⟨history.state.self, output⟩ =
        (writes.foldlM (WriteCall.writeTo library history.state.self) output).map
          fun wire => (⟨history.state.self, wire⟩, none) := by
  have declared : ∀ tag ∈ library.visit history.state.self.present,
      tag ∈ fields.map (·.field.tag) :=
    fun tag visited => tracks.declared tag ((visitsAll _ _).mp visited)
  obtain ⟨writes, listed, sound, statements, loop⟩ :=
    exists_writes library name _ history.state.self distinct free own declared
  have marked (tag : UInt16) : tag ∈ writes.map (·.tag) ↔ tag ∈ history.state.self.present := by
    rw [listed, visitsAll]
  refine ⟨writes, ⟨?_, ?_, ?_⟩, ?_, ?_⟩
  · rw [listed]
    exact visitsOnce _
  · intro field declared assigned
    obtain ⟨bound, member, rfl⟩ := List.mem_map.mp declared
    have present := (tracks.assigned bound member).mpr assigned
    obtain ⟨call, written, tag⟩ := List.mem_map.mp ((marked _).mpr present)
    obtain ⟨other, declared, sameTag, sameMember⟩ := sound call written
    cases List.inj_on_of_nodup_map distinct declared member (sameTag.symm.trans tag)
    exact ⟨call, written, sameTag, sameMember⟩
  · intro call written
    obtain ⟨bound, member, sameTag, sameMember⟩ := sound call written
    have present : bound.field.tag ∈ history.state.self.present :=
      sameTag ▸ (marked _).mp (List.mem_map_of_mem written)
    exact ⟨bound.field, List.mem_map_of_mem member, (tracks.assigned bound member).mp present,
      sameTag, sameMember⟩
  · rw [steps_encodeCall, statements]
  · intro output
    rw [call_encode, loop, Option.map_map]
    rfl

/-! ## Classes of structs -/

variable {scope : Scope} {viewpoint : String}

/-- After any calls on a fresh instance of a struct's class, the presence check of a field answers
    whether the field's member was assigned by any of them, as it is by the field's setter.  Only
    tags of fields are ever present, and the calls do the same if all other tags are taken from the
    wire.  When the instance writes itself, every field that was assigned is written once, under its
    own tag, and no other field is.  Tags, fields and methods have to be told apart, no member may
    be named like a variable around its name, and the bitmap has to visit each of its tags once. -/
theorem presence_tracks_assignments {struct : StructDecl} {decl : ClassDecl}
    (visitsOnce : ∀ present, (library.visit present).Nodup)
    (visitsAll : ∀ present tag, tag ∈ library.visit present ↔ tag ∈ present)
    (generated : (scope.classOf viewpoint struct).outcome = .ok decl)
    (distinctTags : (struct.fields.map (·.tag)).Nodup)
    (distinctNames : (struct.fields.map (·.name)).Nodup)
    (distinctMethods : (decl.methods.map (·.name)).Nodup)
    (free : ∀ field ∈ struct.fields, field.name ∉ ["tag", "encoder", presenceMember])
    (calls : List (Call Ω W)) :
    ∃ history, decl.history library calls = history ∧
      (∀ field ∈ struct.fields, ∃ isSet : Bool,
        decl.call library (presenceName field.name) [] history.state =
          some (history.state, some (.single (.boolean isSet))) ∧
        (isSet = true ↔ history.Assigned field.name)) ∧
      (∀ field ∈ struct.fields, ∀ value,
        (decl.perform library history ⟨setterName field.name, [.value value]⟩).Assigned
          field.name) ∧
      (∀ tag ∈ history.state.self.present, tag ∈ struct.fields.map (·.tag)) ∧
      decl.history (library.restrictTags (struct.fields.map (·.tag))) calls = history ∧
      ∃ writes, WritesOnce struct.fields (fun field => history.Assigned field.name) writes ∧
        (decl.steps library encodeCall history.state.self).map (·.statement) =
          writes.map .write ∧
        ∀ output, decl.call library "encode" [.encoder] ⟨history.state.self, output⟩ =
          (writes.foldlM (WriteCall.writeTo library history.state.self) output).map
            fun wire => (⟨history.state.self, wire⟩, none) := by
  obtain ⟨fields, declared, admitted, rfl⟩ := Scope.classOf_outcome_ok.mp generated
  have tags : struct.fields.map (·.tag) = fields.map (·.field.tag) := by
    rw [← declared, List.map_map]
    rfl
  have names : struct.fields.map (·.name) = fields.map (·.field.name) := by
    rw [← declared, List.map_map]
    rfl
  rw [tags] at distinctTags
  rw [names] at distinctNames
  have tracks : Tracks fields ((structClass struct.name fields).history library calls) :=
    tracks_history distinctTags distinctNames calls
  refine ⟨_, rfl, fun field member => ?_, fun field member value => ?_, ?_, ?_, ?_⟩
  · rw [← declared] at member
    obtain ⟨bound, listed, rfl⟩ := List.mem_map.mp member
    refine ⟨_, call_presenceCheck distinctMethods listed _, ?_⟩
    rw [decide_eq_true_iff]
    exact tracks.assigned bound listed
  · rw [← declared] at member
    obtain ⟨bound, listed, rfl⟩ := List.mem_map.mp member
    exact assigned_of_setter distinctMethods listed value _
  · rw [tags]
    exact tracks.declared
  · rw [tags]
    refine ClassDecl.history_of_forall₂ ?_ like_steps calls
    rfl
  · rw [← declared]
    exact exists_writesOnce tracks visitsOnce visitsAll distinctTags
      (fun bound member => free _ (declared ▸ List.mem_map_of_mem member))
      (fun bound member => (admitted bound member).binds.write_eq)

namespace Sample

/-- A crate gets a count, and then reads a wire with an unknown tag and with a tag that comes
    twice. -/
def crateCalls : List (Call Unit (List (UInt16 × Payload Unit))) :=
  [⟨"setCount", [.value (.single (.int 5))]⟩,
   ⟨"decode", [.decoder [(9, .number 1), (1, .number 6), (1, .number 7)]]⟩]

/-- The statements that are run by the calls. -/
def crateDone : List Statement :=
  [.assign "count" (.name "val"), .markPresent 1,
   .assign "count" (.read (.narrowNumber 1)), .markPresent 1,
   .assign "count" (.read (.narrowNumber 1)), .markPresent 1]

end Sample

open Sample in
/-- After these calls, the count of the crate is present and its colors are not. -/
theorem presence_tracks_assignments_crate :
    ((Scope.ofModule [crate, item] .default crate).classOf "crate" crateStruct).outcome =
      .ok crateClass ∧
    ∃ history, crateClass.history crateLibrary crateCalls = history ∧
      history.done = crateDone ∧
      crateClass.call crateLibrary "isSetCount" [] history.state =
        some (history.state, some (.single (.boolean true))) ∧
      crateClass.call crateLibrary "isSetColors" [] history.state =
        some (history.state, some (.single (.boolean false))) ∧
      crateClass.history (crateLibrary.restrictTags [1, 2, 3]) crateCalls = history ∧
      ∃ writes, WritesOnce crateStruct.fields (fun field => history.Assigned field.name) writes ∧
        (crateClass.steps crateLibrary encodeCall history.state.self).map (·.statement) =
          writes.map .write := by
  have generated : ((Scope.ofModule [crate, item] .default crate).classOf "crate"
      crateStruct).outcome = .ok crateClass := rfl
  have lawful : crateLibrary.Lawful := Library.lawful_ofRecords _ _ _
  obtain ⟨history, ran, checks, _, _, unknown, writes, once, steps, _⟩ :=
    presence_tracks_assignments lawful.visit_nodup lawful.mem_visit generated (by decide)
      (by decide) (by decide) (by decide) crateCalls
  have done : history.done = crateDone := by
    rw [← ran]
    rfl
  have count : history.Assigned "count" := ⟨.name "val", by simp [done, crateDone]⟩
  have colors : ¬ history.Assigned "colors" := by
    rintro ⟨value, stored⟩
    simp [done, crateDone] at stored
  obtain ⟨isSet, answer, exact⟩ := checks (.scalar "count" 1 .int32) (by decide)
  obtain ⟨isSet', answer', exact'⟩ :=
    checks (Field.enumRef "colors" 2 "Color").asRepeated (by decide)
  rw [exact.mpr count] at answer
  rw [Bool.eq_false_iff.mpr (mt exact'.mp colors)] at answer'
  exact ⟨generated, history, ran, done, answer, answer', unknown, writes, once, steps⟩

end WireSchema
