import WireSchema.Proofs.Bindings
import WireSchema.Proofs.CallSequences

/-! # Unknown tags on the wire

A class may find tags on the wire that none of its fields has.  They make no difference to what is
done with the others.

* `Library.restrictTags` leaves out tags on the wire.
* `like_rounds` — the loop over the wire takes like steps without the unknown tags.
* `like_steps` — so does every call.
-/

namespace WireSchema

open Output Execution

variable {Ω W : Type} {library : Library Ω W} {name : String} {fields : List BoundField}

/-- The library that overlooks tags on the wire, except for some. -/
def Execution.Library.restrictTags (library : Library Ω W) (known : List UInt16) :
    Library Ω W :=
  { library with tags := fun wire => (library.tags wire).filter (· ∈ known) }

def Execution.Frame.restrictTags (frame : Frame Ω W) (known : List UInt16) : Frame Ω W :=
  { frame with library := frame.library.restrictTags known }

/-- No statement looks at the tags on the wire. -/
theorem effect_restrictTags (frame : Frame Ω W) (known : List UInt16) (statement : Statement)
    (state : State Ω W) :
    statement.effect (frame.restrictTags known) state = statement.effect frame state := by
  have evaluate (expression : Expression) :
      expression.run (frame.restrictTags known) state.self = expression.run frame state.self := by
    cases expression with
    | read call => cases call <;> rfl
    | _ => rfl
  cases statement with
  | assign member value =>
    simp only [Statement.effect, evaluate]
    rfl
  | _ => rfl

/-- What is done with a field's tag does not depend on where the tag stands among all tags. -/
theorem like_readCase {frame : Frame Ω W} {bound : BoundField} {statement : Statement}
    (member : statement ∈ bound.readCase.statements) (known all others : List UInt16)
    (tag : UInt16) (round other : Nat) :
    Step.Like ⟨(frame.restrictTags known).atWireTag others tag other, statement⟩
      ⟨frame.atWireTag all tag round, statement⟩ where
  statement := rfl
  effect state := by
    have decoder (self : Instance Ω) : (frame.atWireTag others tag other).lookup self "decoder" =
        (frame.atWireTag all tag round).lookup self "decoder" := by
      rw [lookup_atWireTag (by decide), lookup_atWireTag (by decide)]
    have bitmap (self : Instance Ω) :
        (frame.atWireTag others tag other).lookup self presenceMember =
          (frame.atWireTag all tag round).lookup self presenceMember := by
      rw [lookup_atWireTag (by decide), lookup_atWireTag (by decide)]
    change statement.effect ((frame.atWireTag others tag other).restrictTags known) state = _
    rw [effect_restrictTags]
    simp only [BoundField.readCase, List.mem_cons, List.not_mem_nil, or_false] at member
    obtain rfl | rfl := member
    · simp only [Step.effect, Statement.effect, Expression.run, decoder]
      rfl
    · simp only [Step.effect, Statement.effect, bitmap]

/-- A loop over the wire does the same if tags without a field are left out. -/
theorem like_rounds (frame : Frame Ω W) (all others tags : List UInt16) (round other : Nat) :
    List.Forall₂ Step.Like
      (((tags.filter (· ∈ fields.map (·.field.tag))).zipIdx other).flatMap fun step =>
        (caseStatements (fields.map BoundField.readCase) step.1).map (Step.mk
          ((frame.restrictTags (fields.map (·.field.tag))).atWireTag others step.1 step.2)))
      ((tags.zipIdx round).flatMap fun step =>
        (caseStatements (fields.map BoundField.readCase) step.1).map
          (Step.mk (frame.atWireTag all step.1 step.2))) := by
  -- the rounds that are left out shift the count of those that follow, so both counts are general
  induction tags generalizing round other with
  | nil => exact .nil
  | cons tag tags inductionHypothesis =>
    obtain ⟨none, unknown⟩ | ⟨bound, member, tagged, statements⟩ :=
      caseStatements_map BoundField.readCase (fun _ => rfl) fields tag
    · rw [List.filter_cons_of_neg (by simpa using unknown), List.zipIdx_cons, List.flatMap_cons,
        none]
      exact inductionHypothesis _ _
    · have known : tag ∈ fields.map (·.field.tag) := tagged ▸ List.mem_map_of_mem member
      rw [List.filter_cons_of_pos (by simpa using known), List.zipIdx_cons, List.zipIdx_cons,
        List.flatMap_cons, List.flatMap_cons, statements]
      refine List.rel_append ?_ (inductionHypothesis _ _)
      rw [List.forall₂_map_left_iff, List.forall₂_map_right_iff, List.forall₂_same]
      exact fun statement listed => like_readCase listed _ _ _ _ _ _

/-- A body that is no loop over the wire does the same if tags are left out. -/
theorem like_body {body : Body} (apart : ∀ cases, body ≠ .eachWireTag cases) (frame : Frame Ω W)
    (known : List UInt16) (self : Instance Ω) :
    List.Forall₂ Step.Like (body.steps (frame.restrictTags known) self)
      (body.steps frame self) := by
  have like (frame : Frame Ω W) (list : List Statement) : List.Forall₂ Step.Like
      (list.map (Step.mk (frame.restrictTags known))) (list.map (Step.mk frame)) := by
    rw [List.forall₂_map_left_iff, List.forall₂_map_right_iff, List.forall₂_same]
    exact fun statement _ => ⟨rfl, effect_restrictTags frame known statement⟩
  cases body with
  | statements list => exact like frame list
  | eachWireTag cases => exact absurd rfl (apart cases)
  | eachPresentTag cases =>
    have bitmap : (frame.restrictTags known).lookup self presenceMember =
        frame.lookup self presenceMember := rfl
    simp only [Body.steps, bitmap]
    split
    · refine List.rel_flatMap (List.forall₂_same.mpr fun _ _ => rfl) ?_
      rintro tag _ rfl
      exact like (frame.atPresentTag tag) _
    · exact .nil

/-- A call takes like steps if tags without a field are left out. -/
theorem like_steps (call : Call Ω W) (self : Instance Ω) :
    List.Forall₂ Step.Like
      ((structClass name fields).steps (library.restrictTags (fields.map (·.field.tag))) call self)
      ((structClass name fields).steps library call self) := by
  unfold ClassDecl.steps
  cases found : (structClass name fields).methods.find? (·.name == call.method) with
  | none => exact .nil
  | some method =>
    dsimp only
    split
    · obtain ⟨bound, _, accessor⟩ | rfl | rfl := mem_methods.mp (List.mem_of_find?_eq_some found)
      · refine like_body (fun cases => ?_) (method.frame library _ call.arguments) _ self
        obtain rfl | rfl | rfl | ⟨fixed, _, rfl | rfl⟩ := BoundField.mem_accessors.mp accessor <;>
          nofun
      · let frame := (decodeMethod fields).frame library (structClass name fields) call.arguments
        change List.Forall₂ Step.Like ((decodeMethod fields).body.steps (frame.restrictTags _) self)
          ((decodeMethod fields).body.steps frame self)
        have decoder (known : List UInt16) : (frame.restrictTags known).lookup self "decoder" =
            frame.lookup self "decoder" := rfl
        simp only [decodeMethod, Body.steps, decoder]
        split
        · exact like_rounds frame _ _ _ 0 0
        · exact .nil
      · refine like_body (fun cases same => ?_) ((encodeMethod fields).frame library _ _) _ self
        cases same
    · exact .nil

end WireSchema
