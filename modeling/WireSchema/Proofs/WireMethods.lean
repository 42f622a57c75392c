import WireSchema.Proofs.Bindings
import WireSchema.Proofs.Execution

/-! # The wire methods of a class

A class writes its objects by a loop over the presence bitmap, and reads them by a loop over the
tags on the wire.  Here one round of each loop is run.

* `encode_eq` and `decode_eq` — running a wire method is running its loop.
* `runCase_write_eq` — the visit to the tag of a field writes the member of the field.
* `runCase_read` — the round for the tag of a field stores what the field reads.
-/

namespace WireSchema

open Output Execution

variable {Ω W : Type} {library : Library Ω W}

/-! ## Methods and cases -/

/-- Accessors are named apart from the wire methods. -/
theorem accessor_name {bound : BoundField} {method : Method} (accessor : method ∈ bound.accessors) :
    method.name.toList.head? ∈ [some 'g', some 's', some 'i'] := by
  obtain rfl | rfl | rfl | ⟨fixed, _, rfl | rfl⟩ := BoundField.mem_accessors.mp accessor
  · simp [BoundField.getter, getterName]
  · simp [BoundField.setter, setterName]
  · simp [BoundField.presenceCheck, presenceName]
  · simp [BoundField.fractionSetter, fractionSetterName, setterName]
  · simp [BoundField.fractionGetter, fractionGetterName, getterName]

theorem find?_method {name : String} {fields : List BoundField} :
    (structClass name fields).methods.find? (·.name == "decode") = some (decodeMethod fields) ∧
      (structClass name fields).methods.find? (·.name == "encode") =
        some (encodeMethod fields) := by
  -- no accessor starts like them, so the search passes over all accessors
  have apart (other : String) (start : other.toList.head? ∉ [some 'g', some 's', some 'i']) :
      (fields.flatMap BoundField.accessors).find? (·.name == other) = none := by
    rw [List.find?_eq_none]
    intro method listed named
    obtain ⟨bound, _, accessor⟩ := List.mem_flatMap.mp listed
    rw [← beq_iff_eq.mp named] at start
    exact start (accessor_name accessor)
  constructor
  · rw [structClass, List.find?_append, apart "decode" (by decide)]
    rfl
  · rw [structClass, List.find?_append, apart "encode" (by decide)]
    rfl

/-- Where keys are distinct, an element is found by its key. -/
theorem find?_eq_some_of_nodup {α β : Type} [BEq β] [LawfulBEq β] {key : α → β} {xs : List α}
    {x : α} (distinct : (xs.map key).Nodup) (member : x ∈ xs) :
    xs.find? (key · == key x) = some x := by
  cases found : xs.find? (key · == key x) with
  | none => exact absurd BEq.rfl (List.find?_eq_none.mp found x member)
  | some y =>
    have holds := List.find?_some found
    have same : key y = key x := beq_iff_eq.mp holds
    rw [List.inj_on_of_nodup_map distinct (List.mem_of_find?_eq_some found) member same]

/-- With distinct tags, the case of a tag is the one of its field. -/
theorem find?_case {fields : List BoundField} {bound : BoundField} {caseOf : BoundField → Case}
    (tagged : ∀ bound, (caseOf bound).tag = bound.field.tag)
    (distinct : (fields.map (·.field.tag)).Nodup) (member : bound ∈ fields) :
    (fields.map caseOf).find? (·.tag == bound.field.tag) = some (caseOf bound) := by
  have tags : (fields.map caseOf).map Case.tag = fields.map (·.field.tag) := by
    rw [List.map_map]
    exact List.map_congr_left fun bound _ => tagged bound
  rw [← tagged bound]
  exact find?_eq_some_of_nodup (tags ▸ distinct) (List.mem_map_of_mem member)

/-! ## Writing -/

/-- The frame of the method that writes an object. -/
def encodeFrame (library : Library Ω W) (decl : ClassDecl) : Frame Ω W where
  library := library
  decl := decl
  locals := [("encoder", .encoder)]
  position := none

variable {name : String} {fields : List BoundField} {source : Instance Ω}

theorem mem_memberNames {bound : BoundField} (name : String) (member : bound ∈ fields) :
    bound.field.name ∈ (structClass name fields).memberNames :=
  List.mem_map.mpr ⟨bound.member, List.mem_cons_of_mem _ (List.mem_map_of_mem member), rfl⟩

theorem presence_mem_memberNames (name : String) (fields : List BoundField) :
    presenceMember ∈ (structClass name fields).memberNames := List.mem_cons_self

/-- The visit to the tag of a field writes the member of the field, if that can be written. -/
theorem runCase_write_eq {bound : BoundField} {output : W}
    (distinct : (fields.map (·.field.tag)).Nodup) (member : bound ∈ fields)
    (free : bound.field.name ∉ ["tag", "encoder", presenceMember])
    (call : bound.binding.write.tag = bound.field.tag ∧
      bound.binding.write.member = bound.field.name) :
    runCase ((encodeFrame library (structClass name fields)).atPresentTag bound.field.tag)
        (fields.map BoundField.writeCase) bound.field.tag ⟨source, output⟩ =
      (bound.binding.write.payload? library (source.members bound.field.name)).map fun payload =>
        ⟨source, library.write output bound.field.tag payload⟩ := by
  simp only [List.mem_cons, List.not_mem_nil, or_false, not_or] at free
  obtain ⟨notTag, notEncoder, notPresence⟩ := free
  have found : (fields.map BoundField.writeCase).find? (·.tag == bound.field.tag) =
      some bound.writeCase := find?_case (fun _ => rfl) distinct member
  let frame := (encodeFrame library (structClass name fields)).atPresentTag bound.field.tag
  have encoder : frame.lookup source "encoder" = some .encoder := rfl
  have visible : bound.field.name ∉ frame.locals.map Prod.fst := by
    simpa [frame, Frame.atPresentTag, Frame.declare, encodeFrame] using ⟨notTag, notEncoder⟩
  have value : frame.value? source bound.binding.write.member =
      some (source.members bound.field.name) := by
    rw [call.2]
    exact Frame.value?_member visible (mem_memberNames name member) notPresence
  rw [runCase_of_find? found, BoundField.writeCase, List.foldlM_cons,
    Statement.effect_write_eq encoder value, call.1]
  exact bind_pure _

/-- The visit to the tag of a field writes the member of the field. -/
theorem runCase_write {bound : BoundField} {payload : Payload Ω} {output : W}
    (distinct : (fields.map (·.field.tag)).Nodup) (member : bound ∈ fields)
    (free : bound.field.name ∉ ["tag", "encoder", presenceMember])
    (call : bound.binding.write.tag = bound.field.tag ∧
      bound.binding.write.member = bound.field.name)
    (written : bound.binding.write.payload? library (source.members bound.field.name) =
      some payload) :
    runCase ((encodeFrame library (structClass name fields)).atPresentTag bound.field.tag)
        (fields.map BoundField.writeCase) bound.field.tag ⟨source, output⟩ =
      some ⟨source, library.write output bound.field.tag payload⟩ := by
  rw [runCase_write_eq distinct member free call, written]
  rfl

/-- The call that writes an object is a visit to every present tag. -/
theorem call_encode (name : String) (fields : List BoundField) (state : State Ω W) :
    (structClass name fields).call library "encode" [.encoder] state =
      ((library.visit state.self.present).foldlM (fun state tag =>
        runCase ((encodeFrame library (structClass name fields)).atPresentTag tag)
          (fields.map BoundField.writeCase) tag state) state).map (·, none) := by
  let frame := encodeFrame library (structClass name fields)
  have visible : presenceMember ∉ frame.locals.map Prod.fst := by
    change presenceMember ∉ ["encoder"]
    decide
  have bitmap : frame.lookup state.self presenceMember = some .bitmap :=
    Frame.lookup_presence visible (presence_mem_memberNames name fields)
  have called : (structClass name fields).call library "encode" [.encoder] state =
      (encodeMethod fields).body.run frame state := by
    rw [ClassDecl.call, find?_method.2]
    rfl
  rw [called]
  simp only [encodeMethod, Body.run, bitmap]
  rfl

/-- Writing an object is a visit to every present tag. -/
theorem encode_eq (name : String) (fields : List BoundField) (source : Instance Ω) :
    (structClass name fields).encode library source =
      ((library.visit source.present).foldlM (fun state tag =>
        runCase ((encodeFrame library (structClass name fields)).atPresentTag tag)
          (fields.map BoundField.writeCase) tag state) ⟨source, library.blank⟩).map (·.output) := by
  rw [ClassDecl.encode, call_encode]
  change ((Option.map _ _).bind _) = _
  rw [Option.bind_map, Option.map_eq_bind]
  rfl

/-! ## Reading -/

/-- The frame of the method that reads an object. -/
def decodeFrame (library : Library Ω W) (decl : ClassDecl) (wire : W) : Frame Ω W where
  library := library
  decl := decl
  locals := [("decoder", .decoder wire)]
  position := none

/-- Reading an object is a round for every tag on the wire. -/
theorem decode_eq (name : String) (fields : List BoundField) (start : Instance Ω) (wire : W) :
    (structClass name fields).decode library start wire =
      ((library.tags wire).zipIdx.foldlM (fun state step =>
        runCase ((decodeFrame library (structClass name fields) wire).atWireTag
            (library.tags wire) step.1 step.2)
          (fields.map BoundField.readCase) step.1 state) ⟨start, library.blank⟩).map (·.self) := by
  let frame := decodeFrame library (structClass name fields) wire
  have called : (structClass name fields).call library "decode" [.decoder wire]
      ⟨start, library.blank⟩ = (decodeMethod fields).body.run frame ⟨start, library.blank⟩ := by
    rw [ClassDecl.call, find?_method.1]
    rfl
  have decoder : frame.lookup start "decoder" = some (.decoder wire) := rfl
  have looped : (decodeMethod fields).body.run frame ⟨start, library.blank⟩ =
      ((library.tags wire).zipIdx.foldlM (fun state step =>
        runCase (frame.atWireTag (library.tags wire) step.1 step.2)
          (fields.map BoundField.readCase) step.1 state) ⟨start, library.blank⟩).map (·, none) := by
    simp only [decodeMethod, Body.run, decoder]
    rfl
  rw [ClassDecl.decode, called, looped]
  change ((Option.map _ _).bind _) = _
  rw [Option.bind_map, Option.map_eq_bind]
  rfl

/-- The round for the tag of a field stores what the field reads. -/
theorem runCase_read {bound : BoundField} {start : Instance Ω} {value : Value Ω} {output wire : W}
    {tags : List UInt16} {round : Nat} (distinct : (fields.map (·.field.tag)).Nodup)
    (member : bound ∈ fields)
    (found : bound.binding.read.run library wire bound.field.tag = some value) :
    runCase ((decodeFrame library (structClass name fields) wire).atWireTag tags bound.field.tag
        round) (fields.map BoundField.readCase) bound.field.tag ⟨start, output⟩ =
      some ⟨(start.assign bound.field.name value).mark bound.field.tag, output⟩ := by
  have chosen : (fields.map BoundField.readCase).find? (·.tag == bound.field.tag) =
      some bound.readCase := find?_case (fun _ => rfl) distinct member
  let frame := (decodeFrame library (structClass name fields) wire).atWireTag tags
    bound.field.tag round
  have decoder : frame.lookup start "decoder" = some (.decoder wire) := rfl
  have position : frame.position = some bound.field.tag := rfl
  have declared : bound.field.name ∈ frame.decl.memberNames := mem_memberNames name member
  have visible : presenceMember ∉ frame.locals.map Prod.fst := by
    change presenceMember ∉ ["i", "present", "decoder"]
    decide
  have bitmap (source : Instance Ω) : frame.lookup source presenceMember = some .bitmap :=
    Frame.lookup_presence visible (presence_mem_memberNames name fields)
  have read : Expression.run frame start (.read bound.binding.read) = some value := by
    simp only [Expression.run, decoder, position]
    exact found
  rw [runCase_of_find? chosen, BoundField.readCase, List.foldlM_cons,
    Statement.effect_assign read declared]
  -- the member is stored, and marking its tag remains
  rw [Option.bind_eq_bind, Option.bind_some, List.foldlM_cons,
    Statement.effect_markPresent (bitmap _)]
  rfl

end WireSchema
