import WireSchema.Proofs.Pairs
import WireSchema.Proofs.RecordMembers
import WireSchema.Schema.Decode

/-! # The levels of a document

The document of a module holds records in records.  What a value in it is read as depends on the
place it stands in: some values are records of a certain level, some are lists of them, and in all
others there is no record.

* `RecordLevel` and `RecordLevel.parts` — the records of a document and what they are made of, in
  one table.
* `Place` — what stands in a place, with the places of the members and items of its value.
* `Place.Uses` — the decoders that are used in a place.
* `RecordLevel.fits` — the table is that of the formats.
-/

namespace WireSchema

/-! ## Values -/

namespace Json

/-- Lists and objects. -/
def IsCompound : Json → Prop
  | .array _ _ | .object _ _ => True
  | _ => False

@[simp] theorem isCompound_array {items : List Json} {ending : ListEnd} :
    (array items ending).IsCompound := trivial

@[simp] theorem isCompound_object {members : List (Key × Json)} {ending : ObjectEnd} :
    (object members ending).IsCompound := trivial

/-- A value in which nothing breaks off. -/
inductive WellFormed : Json → Prop where
  | null : WellFormed .null
  | bool {value : Bool} : WellFormed (.bool value)
  | number {value : Number} : WellFormed (.number value)
  | text {text : Except Malformed String} : WellFormed (.text text)
  | array {items : List Json} :
      (∀ item ∈ items, WellFormed item) → WellFormed (.array items .closed)
  | object {members : List (Key × Json)} :
      (∀ member ∈ members, WellFormed member.2) → WellFormed (.object members .closed)

theorem skipItems_eq_ok_iff {items : List Json} :
    skipItems items = .ok () ↔ ∀ item ∈ items, item.skip = .ok () := by
  induction items with
  | nil => simp [skipItems]
  | cons item items inductionHypothesis =>
    simp [skipItems, bind_eq_ok, Unique.exists_iff, inductionHypothesis]

theorem skipMembers_eq_ok_iff {members : List (Key × Json)} :
    skipMembers members = .ok () ↔ ∀ member ∈ members, member.2.skip = .ok () := by
  induction members with
  | nil => simp [skipMembers]
  | cons member members inductionHypothesis =>
    simp [skipMembers, bind_eq_ok, Unique.exists_iff, inductionHypothesis]

theorem skip_array_iff {items : List Json} {ending : ListEnd} :
    (array items ending).skip = .ok () ↔
      (∀ item ∈ items, item.skip = .ok ()) ∧ ending.passedOver = .ok () := by
  simp [skip, bind_eq_ok, Unique.exists_iff, skipItems_eq_ok_iff]

theorem skip_object_iff {members : List (Key × Json)} {ending : ObjectEnd} :
    (object members ending).skip = .ok () ↔
      (∀ member ∈ members, member.2.skip = .ok ()) ∧ ending.passedOver = .ok () := by
  simp [skip, bind_eq_ok, Unique.exists_iff, skipMembers_eq_ok_iff]

theorem WellFormed.skip {json : Json} (wellFormed : json.WellFormed) : json.skip = .ok () := by
  induction wellFormed with
  | null | bool | number | text => rfl
  | array _ skipped => exact skip_array_iff.mpr ⟨skipped, rfl⟩
  | object _ skipped => exact skip_object_iff.mpr ⟨skipped, rfl⟩

/-- Items that are decoded alike are as good as each other. -/
theorem decodeItems_item {α : Type} {decode : Decoder α} {before after : List Json}
    {item item' : Json} {values : List α}
    (same : ∀ value, decode item = .ok value ↔ decode item' = .ok value) :
    decodeItems decode (before ++ item :: after) = .ok values ↔
      decodeItems decode (before ++ item' :: after) = .ok values := by
  induction before generalizing values with
  | nil => simp only [List.nil_append, decodeItems, bind_eq_ok, same]
  | cons first before inductionHypothesis =>
    simp only [List.cons_append, decodeItems, bind_eq_ok, inductionHypothesis]

theorem decodeList_item {α : Type} {decode : Decoder α} {before after : List Json}
    {item item' : Json} {ending : ListEnd} {values : List α}
    (same : ∀ value, decode item = .ok value ↔ decode item' = .ok value) :
    decodeList decode (.array (before ++ item :: after) ending) = .ok values ↔
      decodeList decode (.array (before ++ item' :: after) ending) = .ok values := by
  simp only [decodeList, bind_eq_ok, decodeItems_item same]

end Json

theorem Json.decodeUnit_eq_ok_iff {json : Json} {value : Unit} :
    Json.decodeUnit json = .ok value ↔ json = .null := by
  cases json <;> simp [Json.decodeUnit]

/-- A kind that is written as an object has no member besides its keyword. -/
theorem Kind.decode_object_iff {members : List (Json.Key × Json)} {ending : ObjectEnd}
    {kind : Kind} : Kind.decode (.object members ending) = .ok kind ↔
      ∃ keyword, members = [(.ok keyword, .null)] ∧ ending = .closed ∧
        Kind.ofJsonKeyword keyword = .ok kind := by
  cases members with
  | nil => cases ending <;> simp [Kind.decode, bind_eq_ok]
  | cons member others =>
    obtain ⟨key, value⟩ := member
    simp only [Kind.decode, bind_eq_ok, Json.checked, mapError_eq_ok, Json.decodeUnit_eq_ok_iff]
    constructor
    · rintro ⟨keyword, rfl, kind', named, _, rfl, alone⟩
      split at alone
      · cases alone
        exact ⟨keyword, rfl, rfl, named⟩
      · cases alone
      · cases alone
    · rintro ⟨keyword, same, rfl, named⟩
      cases same
      exact ⟨keyword, rfl, kind, named, (), rfl, rfl⟩

/-! ## Levels and places -/

/-- The kinds of records in a document. -/
inductive RecordLevel where
  | module
  | struct
  | enum
  | field
  | comment
  | reference
  | fixedPoint

/-- What stands in a place of a document. -/
inductive Place where
  | record (level : RecordLevel)
  | records (level : RecordLevel)
  /-- A value without any record in it. -/
  | plain

/-- A part of a record: its key, whether it may be left out, and what its value is. -/
structure Part where
  key : String
  defaulted : Bool
  place : Place

namespace RecordLevel

def Record : RecordLevel → Type
  | module => Module
  | struct => StructDecl
  | enum => EnumDecl
  | field => Field
  | comment => Comment
  | reference => TypeRef
  | fixedPoint => FixedPoint

def format : (level : RecordLevel) → RecordFormat level.Record
  | module => Module.format
  | struct => StructDecl.format
  | enum => EnumDecl.format
  | field => Field.format
  | comment => Comment.format
  | reference => TypeRef.format
  | fixedPoint => FixedPoint.format

def parts : RecordLevel → List Part
  | module =>
    [⟨"name", false, .plain⟩, ⟨"namespace", true, .plain⟩, ⟨"structs", true, .records struct⟩,
     ⟨"enums", true, .records enum⟩]
  | struct =>
    [⟨"name", false, .plain⟩, ⟨"fields", true, .records field⟩, ⟨"comment", true, .record comment⟩]
  | enum =>
    [⟨"name", false, .plain⟩, ⟨"members", false, .plain⟩, ⟨"comment", true, .record comment⟩]
  | field =>
    [⟨"name", false, .plain⟩, ⟨"tag", false, .plain⟩, ⟨"kind", false, .plain⟩,
     ⟨"repeated", true, .plain⟩, ⟨"map_key", true, .plain⟩,
     ⟨"fixed_point", true, .record fixedPoint⟩, ⟨"complex", true, .record reference⟩]
  | comment => [⟨"leading", true, .plain⟩, ⟨"trailing", true, .plain⟩]
  | reference => [⟨"name", false, .plain⟩, ⟨"module", true, .plain⟩]
  | fixedPoint => [⟨"scale", false, .plain⟩]

def part? (level : RecordLevel) (key : String) : Option Part :=
  level.parts.find? (·.key == key)

end RecordLevel

namespace Place

/-- The place of the value of a member. -/
def member : Place → Json.Key → Place
  | record level, .ok key => ((level.part? key).map Part.place).getD plain
  | _, _ => plain

/-- The place of an item.  A record that is written as a list has its parts in their order. -/
def item : Place → Nat → Place
  | record level, index => (level.parts[index]?.map Part.place).getD plain
  | records level, _ => record level
  | plain, _ => plain

end Place

/-! ## Decoders -/

/-- A decoder that refuses lists and objects. -/
def Decoder.IsScalar {α : Type} (decode : Decoder α) : Prop :=
  ∀ json value, decode json = .ok value → ¬ json.IsCompound

/-- The decoders that are used in a place. -/
inductive Place.Uses : Place → {α : Type} → Decoder α → Prop where
  | skip : Uses .plain fun json => Json.checked json.skip
  | scalar {α : Type} {decode : Decoder α} : decode.IsScalar → Uses .plain decode
  | scalars {α : Type} {decode : Decoder α} :
      decode.IsScalar → Uses .plain (Json.decodeList decode)
  | kind : Uses .plain Kind.decode
  | record {level : RecordLevel} : Uses (.record level) level.format.decode
  | option {level : RecordLevel} : Uses (.record level) (Json.decodeOption level.format.decode)
  | records {level : RecordLevel} : Uses (.records level) (Json.decodeList level.format.decode)

/-- A part of the table is a field of a format. -/
inductive Part.Fits {ρ : Type} : Part → FieldFormat ρ → Prop where
  | mandatory {α : Type} {key : String} {place : Place} {decode : Decoder α}
      {store : α → ρ → ρ} :
      place.Uses decode → Fits ⟨key, false, place⟩ (.mandatory key decode store)
  | optional {α : Type} {key : String} {place : Place} {decode : Decoder α}
      {store : α → ρ → ρ} :
      place.Uses decode → Fits ⟨key, true, place⟩ (.optional key decode store)

section

open Json

theorem Decoder.IsScalar.ne_ok {α : Type} {decode : Decoder α} (scalar : decode.IsScalar)
    {json : Json} (compound : json.IsCompound) (value : α) : decode json ≠ .ok value :=
  fun decoded => scalar json value decoded compound

theorem Decoder.isScalar_of_refuses {α : Type} {decode : Decoder α} {e e' : DecodeError}
    (list : ∀ items ending, decode (.array items ending) = .error e)
    (object : ∀ members ending, decode (.object members ending) = .error e') :
    decode.IsScalar := by
  rintro (_ | _ | _ | _ | ⟨items, ending⟩ | ⟨members, ending⟩ | _ | _ | _) value decoded compound
  case array => simp [list] at decoded
  case object => simp [object] at decoded
  all_goals exact compound

theorem decodeOption_of_isCompound {α : Type} {json : Json} (compound : json.IsCompound)
    (decode : Decoder α) : decodeOption decode json = (decode json).map some := by
  cases json <;> simp_all [IsCompound, decodeOption]

theorem Decoder.IsScalar.option {α : Type} {decode : Decoder α} (scalar : decode.IsScalar) :
    Decoder.IsScalar (decodeOption decode) := by
  intro json value decoded compound
  rw [decodeOption_of_isCompound compound, map_eq_ok] at decoded
  obtain ⟨inner, decoded, _⟩ := decoded
  exact scalar.ne_ok compound inner decoded

end

/-- Each level of the table is that of its format. -/
theorem RecordLevel.fits (level : RecordLevel) :
    List.Forall₂ Part.Fits level.parts level.format.fields := by
  have text : Decoder.IsScalar Json.decodeText :=
    Decoder.isScalar_of_refuses (fun _ _ => rfl) fun _ _ => rfl
  have bool : Decoder.IsScalar Json.decodeBool :=
    Decoder.isScalar_of_refuses (fun _ _ => rfl) fun _ _ => rfl
  have tag : Decoder.IsScalar Json.decodeTag :=
    Decoder.isScalar_of_refuses (fun _ _ => rfl) fun _ _ => rfl
  have float : Decoder.IsScalar Json.decodeFloat :=
    Decoder.isScalar_of_refuses (fun _ _ => rfl) fun _ _ => rfl
  cases level with
  | module =>
    exact .cons (.mandatory (.scalar text)) <| .cons (.optional (.scalar text)) <|
      .cons (.optional .records) <| .cons (.optional .records) .nil
  | struct =>
    exact .cons (.mandatory (.scalar text)) <| .cons (.optional .records) <|
      .cons (.optional .record) .nil
  | enum =>
    exact .cons (.mandatory (.scalar text)) <| .cons (.mandatory (.scalars text)) <|
      .cons (.optional .record) .nil
  | field =>
    exact .cons (.mandatory (.scalar text)) <| .cons (.mandatory (.scalar tag)) <|
      .cons (.mandatory .kind) <| .cons (.optional (.scalar bool)) <|
      .cons (.optional (.scalar text.option)) <| .cons (.optional .option) <|
      .cons (.optional .option) .nil
  | comment => exact .cons (.optional (.scalar text)) <| .cons (.optional (.scalar text)) .nil
  | reference =>
    exact .cons (.mandatory (.scalar text)) <| .cons (.optional (.scalar text.option)) .nil
  | fixedPoint => exact .cons (.mandatory (.scalar float)) .nil

section

variable {level : RecordLevel} {key : String}

theorem RecordLevel.field?_rel (level : RecordLevel) (key : String) :
    Option.Rel Part.Fits (level.part? key) (level.format.field? key) :=
  find?_rel level.fits fun _ _ fits => by cases fits <;> rfl

theorem RecordLevel.field?_eq_none_iff :
    level.format.field? key = none ↔ level.part? key = none := by
  have related := level.field?_rel key
  generalize level.part? key = part, level.format.field? key = field at related
  cases related <;> simp

theorem RecordLevel.exists_part? {field : FieldFormat level.Record}
    (found : level.format.field? key = some field) :
    ∃ part, level.part? key = some part ∧ part.Fits field := by
  have related := level.field?_rel key
  rw [found] at related
  generalize level.part? key = part at related
  cases related with
  | some fits => exact ⟨_, rfl, fits⟩

end

/-- The fields of each level store different parts of its records. -/
theorem RecordLevel.separate (level : RecordLevel) : level.format.Separate := by
  cases level
  -- two setters commute because each of them sets another component
  all_goals
    repeat' first
      | exact .nil
      | exact List.forall_mem_nil _
      | refine List.Pairwise.cons ?_ ?_
      | refine List.forall_mem_cons.mpr ⟨?_, ?_⟩
      | exact FieldFormat.apart_of_comm rfl rfl fun _ _ _ => rfl

theorem RecordLevel.distinct (level : RecordLevel) : level.format.names.Nodup := by
  cases level <;> decide

end WireSchema
