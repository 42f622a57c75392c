import WireSchema.Proofs.Records
import WireSchema.Schema.Decode
import WireSchema.Schema.Encode

/-! # Reading back the document of a module

A module is the same after it has been handed on as a document and read again, if all of its scales
are finite.  One that is not finite has no numeral, and the document is refused for the `null` in
its place.  This is shown record by record: an object with all of its members is read as the list of
their values, and each value is read back by the decoder of its field.

* `Json.written_ofMembers` and its neighbours carry `Json.written` to the leaves of a tree.
* `restored` is what comes of reading back a value: itself, or the refusal of a scale.
* `decode_toDocument` puts the records together.
-/

namespace WireSchema

/-! ## Trees that are written -/

namespace Json

theorem writtenItems_eq (items : List Json) : writtenItems items = items.map written := by
  induction items with
  | nil => rfl
  | cons item items inductionHypothesis => simp [writtenItems, inductionHypothesis]

theorem writtenMembers_eq (members : List (Key × Json)) :
    writtenMembers members = members.map fun (key, value) => (key, value.written) := by
  induction members with
  | nil => rfl
  | cons member members inductionHypothesis => simp [writtenMembers, inductionHypothesis]

@[simp] theorem written_bool (value : Bool) : (Json.bool value).written = .bool value := by
  simp [written]

@[simp] theorem written_ofString (s : String) : (ofString s).written = ofString s := by
  simp [ofString, written]

@[simp] theorem written_ofNat (n : Nat) : (ofNat n).written = ofNat n := by
  simp [ofNat, written]

theorem written_ofFloat (x : Float) :
    (ofFloat x).written = if x.isFinite then ofFloat x else .null := by
  simp [ofFloat, written]

@[simp] theorem written_ofOption {α : Type} (encode : α → Json) (value : Option α) :
    (ofOption encode value).written = ofOption (fun a => (encode a).written) value := by
  cases value with
  | none => simp [ofOption, written]
  | some a => rfl

@[simp] theorem written_ofList {α : Type} (encode : α → Json) (values : List α) :
    (ofList (values.map encode)).written = ofList (values.map fun a => (encode a).written) := by
  simp [ofList, written, writtenItems_eq]

@[simp] theorem written_ofMembers (members : List (String × Json)) :
    (ofMembers members).written =
      ofMembers (members.map fun (key, value) => (key, value.written)) := by
  simp [ofMembers, written, writtenMembers_eq]

theorem written_ofMembers_ne_null (members : List (String × Json)) :
    (ofMembers members).written ≠ .null := by
  simp [ofMembers, written]

end Json

/-! ## Values that are read back -/

/-- What comes of reading back a value with or without a scale that is not finite. -/
def restored {α : Type} (finite : Bool) (value : α) : Except DecodeError α :=
  if finite then .ok value else .error (.wrongType .null "f64")

@[simp] theorem restored_true {α : Type} (value : α) : restored true value = .ok value := rfl

@[simp] theorem bind_restored {α β : Type} (finite : Bool) (value : α) (f : α → β) :
    (restored finite value).bind (fun a => .ok (f a)) = restored finite (f value) := by
  cases finite <;> rfl

namespace Json

variable {α : Type}

@[simp] theorem decodeText_ofString (s : String) : decodeText (ofString s) = .ok s := rfl

@[simp] theorem decodeBool_bool (value : Bool) : decodeBool (.bool value) = .ok value := rfl

@[simp] theorem decodeTag_ofNat (tag : UInt16) : decodeTag (ofNat tag.toNat) = .ok tag := by
  have bound := tag.toNat_lt
  simp only [ofNat, decodeTag]
  rw [if_pos (by omega)]
  simp

theorem decodeFloat_written (x : Float) :
    decodeFloat (ofFloat x).written = restored x.isFinite x := by
  rw [written_ofFloat]
  unfold restored
  split <;> rfl

/-- An option is read back if its value is, and its value is not written as `null`. -/
theorem decodeOption_ofOption {encode : α → Json} {decode : Decoder α} {finite : α → Bool}
    (visible : ∀ a, encode a ≠ .null) (restores : ∀ a, decode (encode a) = restored (finite a) a)
    (value : Option α) :
    decodeOption decode (ofOption encode value) = restored (value.all finite) value := by
  cases value with
  | none => rfl
  | some a =>
    -- only a value that is written as null would be taken for an absent one
    have unhidden : decodeOption decode (encode a) = (decode (encode a)).map some := by
      cases tree : encode a with
      | null => exact absurd tree (visible a)
      | _ => rfl
    simp only [ofOption, unhidden, restores, Option.all_some]
    cases finite a <;> rfl

theorem decodeItems_map {encode : α → Json} {decode : Decoder α} {finite : α → Bool}
    (restores : ∀ a, decode (encode a) = restored (finite a) a) (values : List α) :
    decodeItems decode (values.map encode) = restored (values.all finite) values := by
  induction values with
  | nil => rfl
  | cons value values inductionHypothesis =>
    simp only [List.map_cons, decodeItems, restores, inductionHypothesis, List.all_cons]
    cases finite value <;> cases values.all finite <;> rfl

theorem decodeList_ofList {encode : α → Json} {decode : Decoder α} {finite : α → Bool}
    (restores : ∀ a, decode (encode a) = restored (finite a) a) (values : List α) :
    decodeList decode (ofList (values.map encode)) = restored (values.all finite) values := by
  simp only [ofList, decodeList, decodeItems_map restores]
  cases values.all finite <;> rfl

@[simp] theorem decodeOption_text (text : Option String) :
    decodeOption decodeText (ofOption ofString text) = .ok text := by
  cases text <;> rfl

theorem decodeList_ofList_ok {encode : α → Json} {decode : Decoder α}
    (restores : ∀ a, decode (encode a) = .ok a) (values : List α) :
    decodeList decode (ofList (values.map encode)) = .ok values := by
  have restores' (a : α) : decode (encode a) = restored true a := restores a
  rw [decodeList_ofList restores']
  simp [restored]

end Json

@[simp] theorem Kind.decode_written (kind : Kind) : Kind.decode kind.toJson.written = .ok kind := by
  simp [toJson]
  simp [Json.ofString, decode, Json.checked, Except.mapError, bind, ofJsonKeyword,
    ofKeyword?_keyword]

/-! ## Records -/

namespace RecordFormat

variable {ρ α : Type} {format : RecordFormat ρ} {ending : ListEnd} {index : Nat} {record : ρ}
  {fields : List (FieldFormat ρ)} {items : List Json} {key : String} {decode : Decoder α}
  {store : α → ρ → ρ} {json : Json}

@[simp] theorem readItems_closed :
    format.readItems .closed index record [] [] = .ok record := rfl

theorem readItems_cons {field : FieldFormat ρ} (reads : field.read json = (decode json).map store) :
    format.readItems ending index record (field :: fields) (json :: items) =
      (decode json).bind fun value =>
        format.readItems ending (index + 1) (store value record) fields items := by
  cases read : decode json <;>
    simp [readItems, reads, read, Except.map, bind, Except.bind]

@[simp] theorem readItems_mandatory :
    format.readItems ending index record (.mandatory key decode store :: fields) (json :: items) =
      (decode json).bind fun value =>
        format.readItems ending (index + 1) (store value record) fields items :=
  readItems_cons rfl

@[simp] theorem readItems_optional :
    format.readItems ending index record (.optional key decode store :: fields) (json :: items) =
      (decode json).bind fun value =>
        format.readItems ending (index + 1) (store value record) fields items :=
  readItems_cons rfl

/-- A record that is written with all of its members, in the order of its fields, is read as the
    list of its values. -/
theorem decode_written {members : List (String × Json)} (distinct : format.names.Nodup)
    (complete : members.map Prod.fst = format.names) :
    format.decode (Json.ofMembers members).written =
      format.readItems .closed 0 format.blank format.fields
        (members.map fun member => member.2.written) := by
  have lengths : members.length = format.fields.length := by
    simpa [names] using congrArg List.length complete
  have members_eq : (members.map fun (key, value) => (key, value.written)) =
      format.names.zip (members.map fun member => member.2.written) := by
    rw [← complete, List.zip_map']
  rw [Json.written_ofMembers, members_eq, decode_ofMembers distinct (by simpa using lengths)]
  rfl

end RecordFormat

@[simp] theorem Comment.decode_written (comment : Comment) :
    Comment.format.decode comment.toJson.written = .ok comment := by
  rw [toJson, RecordFormat.decode_written (by decide) rfl]
  simp [format]

@[simp] theorem TypeRef.decode_written (ref : TypeRef) :
    TypeRef.format.decode ref.toJson.written = .ok ref := by
  rw [toJson, RecordFormat.decode_written (by decide) rfl]
  simp [format]

theorem FixedPoint.decode_written (fixed : FixedPoint) :
    FixedPoint.format.decode fixed.toJson.written = restored fixed.scale.isFinite fixed := by
  rw [toJson, RecordFormat.decode_written (by decide) rfl]
  simp only [format, List.map_cons, List.map_nil, RecordFormat.readItems_mandatory,
    Json.decodeFloat_written]
  cases fixed.scale.isFinite <;> rfl

/-- Whether the scale of a field is finite, if it has one. -/
def Field.hasFiniteScale (field : Field) : Bool :=
  field.fixedPoint.all (·.scale.isFinite)

theorem Field.decode_written (field : Field) :
    Field.format.decode field.toJson.written = restored field.hasFiniteScale field := by
  have scale : Json.decodeOption FixedPoint.format.decode
      (.ofOption (fun fixed => fixed.toJson.written) field.fixedPoint) =
        restored field.hasFiniteScale field.fixedPoint :=
    Json.decodeOption_ofOption (fun _ => Json.written_ofMembers_ne_null _)
      FixedPoint.decode_written field.fixedPoint
  have target : Json.decodeOption TypeRef.format.decode
      (.ofOption (fun ref => ref.toJson.written) field.target) =
        restored (field.target.all fun _ => true) field.target :=
    Json.decodeOption_ofOption (fun _ => Json.written_ofMembers_ne_null _)
      TypeRef.decode_written field.target
  rw [toJson, RecordFormat.decode_written (by decide) rfl]
  simp [format, scale, target]

/-- Whether the scales of all fields are finite. -/
def StructDecl.hasFiniteScales (struct : StructDecl) : Bool :=
  struct.fields.all Field.hasFiniteScale

theorem StructDecl.decode_written (struct : StructDecl) :
    StructDecl.format.decode struct.toJson.written = restored struct.hasFiniteScales struct := by
  rw [toJson, RecordFormat.decode_written (by decide) rfl]
  simp [format, Json.decodeList_ofList Field.decode_written, hasFiniteScales]

theorem EnumDecl.decode_written (enum : EnumDecl) :
    EnumDecl.format.decode enum.toJson.written = .ok enum := by
  rw [toJson, RecordFormat.decode_written (by decide) rfl]
  simp [format, Json.decodeList_ofList_ok Json.decodeText_ofString]

/-- Whether the scales of all fields of a module are finite. -/
def Module.hasFiniteScales (module : Module) : Bool :=
  module.structs.all StructDecl.hasFiniteScales

/-- The document of a module is read back as the module, if all of its scales are finite, and is
    refused otherwise. -/
theorem decode_toDocument (module : Module) :
    Module.format.decode module.toDocument =
      if module.hasFiniteScales then .ok module else .error (.wrongType .null "f64") := by
  change _ = restored module.hasFiniteScales module
  rw [Module.toDocument, Module.toJson, RecordFormat.decode_written (by decide) rfl]
  simp [Module.format, Json.decodeList_ofList StructDecl.decode_written,
    Json.decodeList_ofList_ok EnumDecl.decode_written, Module.hasFiniteScales]

end WireSchema
