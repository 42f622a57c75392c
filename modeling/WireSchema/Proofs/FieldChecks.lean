import WireSchema.Proofs.Packages

/-! # Checks of fields

A struct is generated field by field, and the first field that cannot be generated is reported.  A
field with a scale has to be a single number, and the scale has to be valid.

* `Scope.Rejects` — why a field of a struct cannot be generated.
* `ClassDecl.Adds` — a class is another one with more methods, and so is its source.
* `first_rejected_field_reported` — a struct fails with its first rejected field, and a scale adds
  two methods to a class and changes nothing else.
-/

namespace WireSchema

open Output (BoundField ClassDecl Method SourceFile joinLines methodLines structClass
  structImports)

/-! ## Scales -/

/-- The field without its scale. -/
def Field.unscaled (field : Field) : Field := { field with fixedPoint := none }

variable {scope : Scope} {viewpoint : String} {field : Field} {e : FieldError}

theorem Field.checkScale_eq_ok : field.checkScale = .ok () ↔
    ∀ fixed ∈ field.fixedPoint,
      field.repeated = false ∧ field.kind.isNumeric = true ∧ fixed.isValid = true := by
  unfold checkScale
  cases field.fixedPoint with
  | none => simp
  | some fixed =>
    cases field.repeated <;> cases field.kind.isNumeric <;> cases valid : fixed.isValid <;>
      simp [valid]

/-- Not every positive scale is valid: the reciprocal of a tiny one is not finite. -/
example : ∀ scale ∈ [0, -0.01, 1e-320, 1 / 0, 0 / 0], (FixedPoint.mk scale).isValid = false := by
  decide +kernel

/-- Why a field of a struct cannot be generated: its scale stands on no single number, or else the
    scale is not valid, or else the field cannot be bound. -/
inductive Scope.Rejects (scope : Scope) (viewpoint : String) (field : Field) :
    FieldError → Prop where
  | misplacedScale {fixed : FixedPoint} : field.fixedPoint = some fixed →
      field.repeated = true ∨ field.kind.isNumeric = false →
      Rejects scope viewpoint field (.invalidFixedPoint field.name field.kind)
  | invalidScale {fixed : FixedPoint} : field.fixedPoint = some fixed → field.repeated = false →
      field.kind.isNumeric = true → fixed.isValid = false →
      Rejects scope viewpoint field (.invalidScale field.name fixed.scale)
  | unbound {e : FieldError} :
      (∀ fixed ∈ field.fixedPoint,
        field.repeated = false ∧ field.kind.isNumeric = true ∧ fixed.isValid = true) →
      (scope.bind viewpoint field).outcome = .error e → Rejects scope viewpoint field e

theorem rejects_of_checkScale (fails : field.checkScale = .error e) :
    scope.Rejects viewpoint field e := by
  unfold Field.checkScale at fails
  split at fails
  · cases fails
  · next fixed scaled =>
    split at fails
    · next misplaced =>
      cases fails
      exact .misplacedScale scaled (by simpa using misplaced)
    · next placed =>
      rw [Bool.not_eq_true, Bool.or_eq_false_iff, Bool.not_eq_false'] at placed
      split at fails
      · cases fails
      · next invalid =>
        cases fails
        exact .invalidScale scaled placed.1 placed.2 (by simpa using invalid)

/-- A field is generated or rejected, and rejected for one of the causes alone. -/
theorem bindField_outcome_error :
    (scope.bindField viewpoint field).outcome = .error e ↔ scope.Rejects viewpoint field e := by
  simp only [Scope.bindField, Logged.bind_outcome_error, Logged.outcome_ofExcept,
    Logged.outcome_pure, reduceCtorEq, and_false, exists_false, or_false]
  constructor
  · rintro (scale | ⟨_, scale, unbound⟩)
    · exact rejects_of_checkScale scale
    · exact .unbound (Field.checkScale_eq_ok.mp scale) unbound
  · intro rejects
    cases rejects with
    | misplacedScale scaled misplaced =>
      left
      unfold Field.checkScale
      rw [scaled]
      exact if_pos (by simpa using misplaced)
    | invalidScale scaled single numeric invalid =>
      left
      simp [Field.checkScale, scaled, single, numeric, invalid]
    | unbound scale unbound => exact .inr ⟨(), Field.checkScale_eq_ok.mpr scale, unbound⟩

theorem exists_bindField_iff :
    (∃ bound, (scope.bindField viewpoint field).outcome = .ok bound) ↔
      ∀ e, ¬ scope.Rejects viewpoint field e := by
  simp only [← bindField_outcome_error]
  cases (scope.bindField viewpoint field).outcome with
  | error e => simp
  | ok bound => simp

/-- A scale has no part in the binding of a field. -/
theorem bind_unscaled : scope.bind viewpoint field.unscaled = scope.bind viewpoint field := rfl

theorem Scope.Admits.unscaled {bound : BoundField} (admits : scope.Admits viewpoint bound) :
    scope.Admits viewpoint ⟨bound.field.unscaled, bound.binding⟩ := by
  have binds : (scope.bind viewpoint bound.field.unscaled).outcome = .ok bound.binding := by
    rw [bind_unscaled]
    exact Scope.bind_outcome_ok.mpr admits.binds
  exact ⟨rfl, Scope.bind_outcome_ok.mp binds⟩

/-! ## Sources of classes -/

namespace Output

/-- The source of a struct's class. -/
def ClassDecl.source (banner placement : String) (decl : ClassDecl) : String :=
  ({ banner := banner, placement := placement, imports := structImports,
     body := decl.lines } : SourceFile).text

/-- The text of methods that another method follows. -/
def followedText (methods : List Method) : String :=
  joinLines (methods.flatMap fun method => method.lines ++ [""])

theorem joinLines_append (lines more : List String) :
    joinLines (lines ++ more) = joinLines lines ++ joinLines more := by
  induction lines with
  | nil => simp [joinLines]
  | cons line lines inductionHypothesis =>
    rw [List.cons_append, joinLines_cons, joinLines_cons, inductionHypothesis,
      ← String.append_assoc]

theorem methodLines_append (methods : List Method) {more : List Method} (follows : more ≠ []) :
    methodLines (methods ++ more) =
      methods.flatMap (fun method => method.lines ++ [""]) ++ methodLines more := by
  induction methods with
  | nil => rfl
  | cons method methods inductionHypothesis =>
    have rest : methods ++ more ≠ [] := List.append_ne_nil_of_right_ne_nil methods follows
    simp only [List.cons_append, methodLines, inductionHypothesis, List.flatMap_cons,
      List.append_assoc]

/-- A class is another class with more methods.  Those stand together, and not at the end. -/
structure ClassDecl.Adds (decl : ClassDecl) (added : List Method) (plain : ClassDecl) : Prop where
  name : decl.name = plain.name
  members : decl.members = plain.members
  methods : ∃ before after, after ≠ [] ∧ plain.methods = before ++ after ∧
    decl.methods = before ++ added ++ after

/-- Methods that a class has more are texts that its source has more. -/
theorem ClassDecl.Adds.exists_source {decl plain : ClassDecl} {added : List Method}
    (adds : decl.Adds added plain) (banner placement : String) :
    ∃ front back, decl.source banner placement = front ++ followedText added ++ back ∧
      plain.source banner placement = front ++ back := by
  obtain ⟨before, after, follows, few, many⟩ := adds.methods
  have spelled : methodLines decl.methods = before.flatMap (fun method => method.lines ++ [""]) ++
      (added.flatMap (fun method => method.lines ++ [""]) ++ methodLines after) := by
    rw [many, methodLines_append _ follows, List.flatMap_append, List.append_assoc]
  have spelled' : methodLines plain.methods =
      before.flatMap (fun method => method.lines ++ [""]) ++ methodLines after := by
    rw [few, methodLines_append _ follows]
  refine ⟨joinLines ([banner, ""] ++ SourceFile.placementLines placement ++
      SourceFile.importLines structImports ++
      ["public class " ++ plain.name ++ " implements SprotoObject \x7b"] ++
      plain.members.map Member.line ++ [""] ++
      before.flatMap (fun method => method.lines ++ [""])),
    joinLines (methodLines after ++ ["\x7d"]), ?_, ?_⟩
  · simp only [ClassDecl.source, SourceFile.text, lines, followedText, adds.name, adds.members,
      spelled, ← joinLines_append, List.append_assoc]
  · simp only [ClassDecl.source, SourceFile.text, lines, spelled', ← joinLines_append,
      List.append_assoc]

/-- The scale of a field adds two methods to the class of its struct. -/
theorem adds_fractions {bound : BoundField} {fixed : FixedPoint} (name : String)
    (before after : List BoundField) (scaled : bound.field.fixedPoint = some fixed) :
    (structClass name (before ++ bound :: after)).Adds
      [bound.fractionSetter fixed, bound.fractionGetter fixed]
      (structClass name (before ++ ⟨bound.field.unscaled, bound.binding⟩ :: after)) := by
  generalize unscaled : BoundField.mk bound.field.unscaled bound.binding = plain
  have accessors : bound.accessors =
      plain.accessors ++ [bound.fractionSetter fixed, bound.fractionGetter fixed] := by
    subst unscaled
    simp only [BoundField.accessors, scaled]
    rfl
  -- a member and the wire methods do not look at the scale
  have each {α : Type} (f : BoundField → α) (same : f plain = f bound) :
      (before ++ plain :: after).map f = (before ++ bound :: after).map f := by
    simp only [List.map_append, List.map_cons, same]
  have decode : decodeMethod (before ++ plain :: after) =
      decodeMethod (before ++ bound :: after) := by
    rw [decodeMethod, each BoundField.readCase (by subst unscaled; rfl), decodeMethod]
  have encode : encodeMethod (before ++ plain :: after) =
      encodeMethod (before ++ bound :: after) := by
    rw [encodeMethod, each BoundField.writeCase (by subst unscaled; rfl), encodeMethod]
  refine ⟨rfl, ?_, before.flatMap BoundField.accessors ++ plain.accessors,
    after.flatMap BoundField.accessors ++
      [decodeMethod (before ++ bound :: after), encodeMethod (before ++ bound :: after)],
    by simp, ?_, ?_⟩
  · rw [structClass, structClass, each BoundField.member (by subst unscaled; rfl)]
  · simp [structClass, decode, encode]
  · simp [structClass, accessors]

end Output

/-! ## Structs -/

variable {banner text : String} {struct : StructDecl}

theorem structSource_outcome_ok :
    (scope.structSource banner viewpoint struct).outcome = .ok text ↔
      ∃ fields : List BoundField, fields.map (·.field) = struct.fields ∧
        (∀ bound ∈ fields, scope.Admits viewpoint bound) ∧
        text = (structClass struct.name fields).source banner viewpoint := by
  simp only [Scope.structSource, Logged.bind_outcome_ok, Scope.classOf_outcome_ok,
    Logged.outcome_pure, Except.ok.injEq]
  constructor
  · rintro ⟨_, ⟨fields, declared, admitted, rfl⟩, rfl⟩
    exact ⟨fields, declared, admitted, rfl⟩
  · rintro ⟨fields, declared, admitted, rfl⟩
    exact ⟨_, ⟨fields, declared, admitted, rfl⟩, rfl⟩

theorem structSource_outcome_error :
    (scope.structSource banner viewpoint struct).outcome = .error e ↔
      ∃ position, Logged.StopsAt (scope.bindField viewpoint) struct.fields position e := by
  simp [Scope.structSource, Scope.classOf, Logged.bind_outcome_error, Logged.forEach_outcome_error]

theorem stopsAt_iff_rejects {position : Nat} {fields : List Field} :
    Logged.StopsAt (scope.bindField viewpoint) fields position e ↔
      ∃ field, fields[position]? = some field ∧
        (∀ earlier ∈ fields.take position, ∀ e', ¬ scope.Rejects viewpoint earlier e') ∧
        scope.Rejects viewpoint field e := by
  constructor
  · rintro ⟨before, field, here, fails⟩
    exact ⟨field, here, fun earlier member => exists_bindField_iff.mp (before earlier member),
      bindField_outcome_error.mp fails⟩
  · rintro ⟨field, here, before, rejects⟩
    exact ⟨fun earlier member => exists_bindField_iff.mpr (before earlier member), field, here,
      bindField_outcome_error.mpr rejects⟩

theorem exists_structSource_iff :
    (∃ text, (scope.structSource banner viewpoint struct).outcome = .ok text) ↔
      ∀ field ∈ struct.fields, ∀ e, ¬ scope.Rejects viewpoint field e := by
  constructor
  · rintro ⟨text, generated⟩ field member
    obtain ⟨fields, declared, admitted, _⟩ := structSource_outcome_ok.mp generated
    rw [← declared, List.mem_map] at member
    obtain ⟨bound, listed, rfl⟩ := member
    exact exists_bindField_iff.mp
      ⟨bound, Scope.bindField_outcome_ok.mpr ⟨rfl, admitted bound listed⟩⟩
  · intro passes
    cases ended : (scope.structSource banner viewpoint struct).outcome with
    | ok text => exact ⟨text, rfl⟩
    | error e =>
      -- an error would be that of a field, and no field is rejected
      obtain ⟨position, stops⟩ := structSource_outcome_error.mp ended
      obtain ⟨field, here, _, rejects⟩ := stopsAt_iff_rejects.mp stops
      exact absurd rejects (passes field (List.mem_of_getElem? here) e)

/-- Without the scale of one field, a source lacks the two methods of the scale. -/
theorem exists_source_unscaled {position : Nat} {fixed : FixedPoint}
    (here : struct.fields[position]? = some field) (scaled : field.fixedPoint = some fixed)
    (generated : (scope.structSource banner viewpoint struct).outcome = .ok text) :
    ∃ binding front back, (scope.bind viewpoint field).outcome = .ok binding ∧
      text = front ++ Output.followedText
        [BoundField.fractionSetter ⟨field, binding⟩ fixed,
          BoundField.fractionGetter ⟨field, binding⟩ fixed] ++ back ∧
      (scope.structSource banner viewpoint
        { struct with fields := struct.fields.set position field.unscaled }).outcome =
          .ok (front ++ back) := by
  obtain ⟨fields, declared, admitted, rfl⟩ := structSource_outcome_ok.mp generated
  rw [← declared, List.getElem?_map, Option.map_eq_some_iff] at here
  obtain ⟨bound, here, rfl⟩ := here
  -- bound fields stand in the order of the declared ones, and this one at the same position
  obtain ⟨before, after, rfl, rfl⟩ : ∃ before after, fields = before ++ bound :: after ∧
      before.length = position := by
    obtain ⟨bounded, there⟩ := List.getElem?_eq_some_iff.mp here
    refine ⟨fields.take position, fields.drop (position + 1), ?_, ?_⟩
    · rw [← there, List.getElem_cons_drop, List.take_append_drop]
    · exact List.length_take_of_le (Nat.le_of_lt bounded)
  obtain ⟨front, back, whole, rest⟩ :=
    (Output.adds_fractions struct.name before after scaled).exists_source banner viewpoint
  refine ⟨bound.binding, front, back, ?_, whole, structSource_outcome_ok.mpr
    ⟨before ++ ⟨bound.field.unscaled, bound.binding⟩ :: after, ?_, ?_, rest.symm⟩⟩
  · exact Scope.bind_outcome_ok.mpr (admitted bound (by simp)).binds
  · simp [← declared]
  · intro other member
    rw [List.mem_append, List.mem_cons] at member
    rcases member with listed | rfl | listed
    · exact admitted other (by simp [listed])
    · exact (admitted bound (by simp)).unscaled
    · exact admitted other (by simp [listed])

/-- A struct has a source exactly if none of its fields is rejected, and fails with the error of the
    first field that is.  The scale of a field has no part in its binding, and adds two methods to
    the class: the source is the one without the scale, with the text of the methods in between. -/
theorem first_rejected_field_reported (scope : Scope) (banner viewpoint : String)
    (struct : StructDecl) :
    ((∃ text, (scope.structSource banner viewpoint struct).outcome = .ok text) ↔
      ∀ field ∈ struct.fields, ∀ e, ¬ scope.Rejects viewpoint field e) ∧
    (∀ e, (scope.structSource banner viewpoint struct).outcome = .error e ↔
      ∃ position field, struct.fields[position]? = some field ∧
        (∀ earlier ∈ struct.fields.take position, ∀ e', ¬ scope.Rejects viewpoint earlier e') ∧
        scope.Rejects viewpoint field e) ∧
    ∀ position field fixed text, struct.fields[position]? = some field →
      field.fixedPoint = some fixed →
      (scope.structSource banner viewpoint struct).outcome = .ok text →
      scope.bind viewpoint field.unscaled = scope.bind viewpoint field ∧
      ∃ binding front back, (scope.bind viewpoint field).outcome = .ok binding ∧
        text = front ++ Output.followedText
          [BoundField.fractionSetter ⟨field, binding⟩ fixed,
            BoundField.fractionGetter ⟨field, binding⟩ fixed] ++ back ∧
        (scope.structSource banner viewpoint
          { struct with fields := struct.fields.set position field.unscaled }).outcome =
            .ok (front ++ back) := by
  refine ⟨exists_structSource_iff, fun e => ?_, fun position field fixed text here scaled
    generated => ⟨bind_unscaled, exists_source_unscaled here scaled generated⟩⟩
  rw [structSource_outcome_error]
  exact exists_congr fun position => stopsAt_iff_rejects

namespace Sample

def owner : Field := .scalar "owner" 1 .string

def gold : Field := .scalar "gold" 2 .int64

/-- A wallet with gold of a scale, and with a text of a scale. -/
def tornWallet : StructDecl :=
  ⟨"Wallet", [owner, gold.scaledBy 0, (Field.scalar "memo" 3 .string).scaledBy 1], .blank⟩

end Sample

open Sample in
/-- A wallet counts its gold in hundredths.  In another one the scale of the gold is nothing, which
    is reported, and that of the text is not. -/
theorem first_rejected_field_reported_wallet :
    (∃ binding front back,
      ((Scope.global [] "javaPackage").structSource "" "game"
        ⟨"Wallet", [owner, gold.scaledBy 0.01], .blank⟩).outcome = .ok (front ++
          Output.followedText [BoundField.fractionSetter ⟨gold.scaledBy 0.01, binding⟩ ⟨0.01⟩,
            BoundField.fractionGetter ⟨gold.scaledBy 0.01, binding⟩ ⟨0.01⟩] ++ back) ∧
      ((Scope.global [] "javaPackage").structSource "" "game"
        ⟨"Wallet", [owner, gold], .blank⟩).outcome = .ok (front ++ back)) ∧
      ((Scope.global [] "javaPackage").structSource "" "game" tornWallet).outcome =
        .error (.invalidScale "gold" 0) := by
  have reported := first_rejected_field_reported (.global [] "javaPackage") "" "game"
  have valid : (FixedPoint.mk 0.01).isValid = true := by decide +kernel
  have invalid : (FixedPoint.mk 0).isValid = false := by decide +kernel
  have ownerPasses : ∀ e, ¬ (Scope.global [] "javaPackage").Rejects "game" owner e :=
    exists_bindField_iff.mp ⟨⟨owner, _⟩, rfl⟩
  have goldPasses :
      ∀ e, ¬ (Scope.global [] "javaPackage").Rejects "game" (gold.scaledBy 0.01) e := by
    obtain ⟨binding, bound⟩ : ∃ binding, ((Scope.global [] "javaPackage").bind "game"
        (gold.scaledBy 0.01)).outcome = .ok binding := ⟨_, rfl⟩
    have scale : (gold.scaledBy 0.01).checkScale = .ok () :=
      Field.checkScale_eq_ok.mpr fun _ scaled => ⟨rfl, rfl, Option.some.inj scaled ▸ valid⟩
    exact exists_bindField_iff.mp ⟨⟨gold.scaledBy 0.01, binding⟩,
      Scope.bindField_outcome_ok.mpr ⟨rfl, scale, Scope.bind_outcome_ok.mp bound⟩⟩
  constructor
  · obtain ⟨text, generated⟩ := (reported ⟨"Wallet", [owner, gold.scaledBy 0.01], .blank⟩).1.mpr
      (by simpa using ⟨ownerPasses, goldPasses⟩)
    obtain ⟨_, binding, front, back, _, rfl, plain⟩ :=
      (reported _).2.2 1 (gold.scaledBy 0.01) _ text rfl rfl generated
    exact ⟨binding, front, back, generated, plain⟩
  · refine ((reported tornWallet).2.1 _).mpr ⟨1, _, rfl, ?_, .invalidScale rfl rfl rfl invalid⟩
    simpa [tornWallet] using ownerPasses

end WireSchema
