import WireSchema.Json.Decode
import WireSchema.Proofs.Outcomes
import Mathlib.Data.List.Nodup

/-! # Parts of records

A record is read from an object or from a list of its fields.  In both forms, a part of the record
that belongs to one field is what the member for that field is read as, or what the blank record has
in its place.

* `Json.member?` — the member that a document has for a field.
* `FieldFormat.Stores` and `FieldFormat.Leaves` — what a field does with a part of a record.
* `RecordFormat.Keeps` — a part that belongs to one field of a format and to no other.
* `RecordFormat.Keeps.of_decode` — what such a part is in a record that has been read.
* `RecordFormat.decode_ofMembers` — an object with all members in the order of the fields is read as
  the list of their values.
-/

namespace WireSchema

/-! ## Members -/

namespace Json

/-- The first value under a key. -/
def under? (members : List (Key × Json)) (key : String) : Option Json :=
  (members.find? fun member => member.1.toOption == some key).map Prod.snd

/-- The member of a document for a field of a record with the given field names.  A list has the
    members in the order of the names. -/
def member? (names : List String) (key : String) : Json → Option Json
  | .object members _ => under? members key
  | .array items _ => under? ((names.map .ok).zip items) key
  | _ => none

@[simp] theorem under?_nil (key : String) : under? [] key = none := rfl

@[simp] theorem under?_cons (name : String) (value : Json) (members : List (Key × Json))
    (key : String) :
    under? ((.ok name, value) :: members) key =
      if name = key then some value else under? members key := by
  by_cases same : name = key <;> simp [under?, Except.toOption, same]

theorem under?_zip_of_not_mem {names : List String} {key : String} (absent : key ∉ names)
    (items : List Json) : under? ((names.map .ok).zip items) key = none := by
  induction names generalizing items with
  | nil => simp
  | cons name names inductionHypothesis =>
    cases items with
    | nil => simp
    | cons item items =>
      simp only [List.mem_cons, not_or] at absent
      simp [Ne.symm absent.1, inductionHypothesis absent.2]

end Json

/-! ## Fields -/

namespace FieldFormat

variable {ρ α β : Type}

/-- A field stores the value that its member is decoded to in a part of the record. -/
def Stores (field : FieldFormat ρ) (decode : Decoder α) (get : ρ → α) : Prop :=
  ∀ json store, field.read json = .ok store →
    ∃ value, decode json = .ok value ∧ ∀ record, get (store record) = value

/-- A field leaves a part of the record alone. -/
def Leaves (field : FieldFormat ρ) (get : ρ → α) : Prop :=
  ∀ json store, field.read json = .ok store → ∀ record, get (store record) = get record

theorem stores_optional {key : String} {decode : Decoder α} {store : α → ρ → ρ} {get : ρ → α}
    (stored : ∀ value record, get (store value record) = value) :
    (optional key decode store).Stores decode get := by
  intro json stored' read
  obtain ⟨value, decoded, rfl⟩ := map_eq_ok.mp read
  exact ⟨value, decoded, stored value⟩

theorem leaves_optional {key : String} {decode : Decoder β} {store : β → ρ → ρ} {get : ρ → α}
    (left : ∀ value record, get (store value record) = get record) :
    (optional key decode store).Leaves get := by
  intro json stored read
  obtain ⟨value, _, rfl⟩ := map_eq_ok.mp read
  exact left value

end FieldFormat

/-! ## Records -/

namespace RecordFormat

variable {ρ α : Type} {format : RecordFormat ρ} {key : String} {decode : Decoder α} {get : ρ → α}
  {record result : ρ}

/-- The names of the fields, in declaration order. -/
def names (format : RecordFormat ρ) : List String := format.fields.map (·.key)

/-- A part of a record belongs to the field with the given key, and to no other. -/
structure Keeps (format : RecordFormat ρ) (key : String) (decode : Decoder α) (get : ρ → α) :
    Prop where
  distinct : format.names.Nodup
  known : key ∈ format.names
  own : ∀ field ∈ format.fields, field.key = key → field.Stores decode get
  others : ∀ field ∈ format.fields, field.key ≠ key → field.Leaves get

/-- A part is what its member is read as, or else what it was before. -/
def Reads (member : Option Json) (decode : Decoder α) (before after : α) : Prop :=
  match member with
  | none => after = before
  | some json => decode json = .ok after

/-- A member that has been met is not met again, and the first one with the key of a part decides
    what the part is. -/
theorem Keeps.of_readMembers {seen seen' : List String} {members : List (Json.Key × Json)}
    (keeps : format.Keeps key decode get)
    (read : format.readMembers seen record members = .ok (seen', result)) :
    (key ∈ seen → get result = get record) ∧
    (key ∉ seen → Reads (Json.under? members key) decode (get record) (get result)) := by
  induction members generalizing seen record with
  | nil =>
    simp only [readMembers, Except.ok.injEq, Prod.mk.injEq] at read
    obtain ⟨rfl, rfl⟩ := read
    simp [Reads]
  | cons member members inductionHypothesis =>
    obtain ⟨name, value⟩ := member
    simp only [readMembers, bind_eq_ok, Json.checked, mapError_eq_ok] at read
    obtain ⟨name, rfl, read⟩ := read
    cases found : format.field? name with
    | none =>
      -- a key that is passed over is that of no field, and so not the key of the part
      have other : name ≠ key := by
        rintro rfl
        obtain ⟨field, listed, rfl⟩ := List.mem_map.mp keeps.known
        simpa using List.find?_eq_none.mp found field listed
      simp only [found, bind_eq_ok] at read
      obtain ⟨_, _, read⟩ := read
      simpa [other] using inductionHypothesis read
    | some field =>
      obtain rfl : field.key = name := by simpa using List.find?_some found
      have listed := List.mem_of_find?_eq_some found
      by_cases met : field.key ∈ seen
      · simp [found, met, bind_eq_ok] at read
      · simp only [found, met, if_false, bind_eq_ok] at read
        obtain ⟨store, stores, read⟩ := read
        have rest := inductionHypothesis read
        by_cases same : field.key = key
        · -- from here on the key has been met, so what is stored now stays
          obtain ⟨part, decoded, stored⟩ := keeps.own field listed same value store stores
          simp_all [Reads]
        · have left := keeps.others field listed same value store stores record
          simp_all [eq_comm]

/-- The items of a list are the members under the names of the fields they are stored in. -/
theorem Keeps.of_readItems {ending : ListEnd} {index : Nat} {fields : List (FieldFormat ρ)}
    {items : List Json} (keeps : format.Keeps key decode get) (listed : fields ⊆ format.fields)
    (distinct : (fields.map (·.key)).Nodup)
    (read : format.readItems ending index record fields items = .ok result) :
    Reads (Json.under? (((fields.map (·.key)).map .ok).zip items) key) decode (get record)
      (get result) := by
  induction fields generalizing index record items with
  | nil =>
    cases items with
    | nil =>
      simp only [readItems, bind_eq_ok] at read
      obtain ⟨_, _, read⟩ := read
      cases read
      simp [Reads]
    | cons item items => simp [readItems] at read
  | cons field fields inductionHypothesis =>
    obtain ⟨head, tail⟩ := List.cons_subset.mp listed
    simp only [List.map_cons, List.nodup_cons] at distinct
    cases items with
    | nil =>
      simp only [readItems, bind_eq_ok] at read
      obtain ⟨_, _, read⟩ := read
      by_cases required : field.required
      · simp [required, bind_eq_ok] at read
      · simp only [required] at read
        simpa using inductionHypothesis tail distinct.2 read
    | cons item items =>
      simp only [readItems, bind_eq_ok] at read
      obtain ⟨store, stores, read⟩ := read
      have rest := inductionHypothesis tail distinct.2 read
      by_cases same : field.key = key
      · -- no later field has the key, so nothing under it is found in the rest
        obtain ⟨part, decoded, stored⟩ := keeps.own field head same item store stores
        rw [Json.under?_zip_of_not_mem (same ▸ distinct.1)] at rest
        have kept : get result = part := rest.trans (stored record)
        simpa [same, Reads, kept] using decoded
      · have left := keeps.others field head same item store stores record
        simpa [same, left] using rest

/-- A part of a record that has been read is what its member is read as, and the default without a
    member. -/
theorem Keeps.of_decode {json : Json} (keeps : format.Keeps key decode get)
    (read : format.decode json = .ok result) :
    Reads (json.member? format.names key) decode (get format.blank) (get result) := by
  cases json with
  | object members ending =>
    unfold RecordFormat.decode ofMembers at read
    simp only [bind_eq_ok] at read
    obtain ⟨⟨seen, record⟩, members, _, _, read⟩ := read
    cases missing : format.missing? seen with
    | some field => simp [missing] at read
    | none =>
      simp [missing, pure, Except.pure] at read
      subst read
      exact (keeps.of_readMembers members).2 (by simp)
  | array items ending => exact keeps.of_readItems (List.Subset.refl _) keeps.distinct read
  | _ => simp [RecordFormat.decode] at read

/-! ## Objects in the order of the fields -/

theorem field?_key (distinct : format.names.Nodup) {field : FieldFormat ρ}
    (listed : field ∈ format.fields) : format.field? field.key = some field := by
  cases found : format.field? field.key with
  | none => simpa using List.find?_eq_none.mp found field listed
  | some other =>
    have same : other.key = field.key := by simpa using List.find?_some found
    have listed' := List.mem_of_find?_eq_some found
    rw [List.inj_on_of_nodup_map distinct listed' listed same]

theorem readMembers_cons {seen : List String} {field : FieldFormat ρ}
    (known : format.field? field.key = some field) (unmet : field.key ∉ seen) (value : Json)
    (members : List (Json.Key × Json)) :
    format.readMembers seen record ((.ok field.key, value) :: members) =
      (field.read value).bind fun store =>
        format.readMembers (field.key :: seen) (store record) members := by
  simp [readMembers, Json.checked, Except.mapError, known, unmet, bind, Except.bind]

theorem readMembers_eq_readItems {seen : List String} {fields : List (FieldFormat ρ)}
    {values : List Json} (index : Nat) (record : ρ) (distinct : format.names.Nodup)
    (listed : fields ⊆ format.fields) (once : (fields.map (·.key)).Nodup)
    (new : ∀ field ∈ fields, field.key ∉ seen) (lengths : values.length = fields.length) :
    format.readMembers seen record ((fields.map fun field => .ok field.key).zip values) =
      (format.readItems .closed index record fields values).map fun result =>
        ((fields.map (·.key)).reverse ++ seen, result) := by
  induction fields generalizing seen record values index with
  | nil =>
    obtain rfl := List.length_eq_zero_iff.mp lengths
    rfl
  | cons field fields inductionHypothesis =>
    cases values with
    | nil => simp at lengths
    | cons value values =>
      obtain ⟨head, tail⟩ := List.cons_subset.mp listed
      simp only [List.map_cons, List.nodup_cons] at once
      have unmet : field.key ∉ seen := new field List.mem_cons_self
      have later : ∀ other ∈ fields, other.key ∉ field.key :: seen := by
        intro other listed
        have unmet' := new other (List.mem_cons_of_mem _ listed)
        have differs : other.key ≠ field.key := fun same =>
          once.1 (same ▸ List.mem_map_of_mem listed)
        simp [unmet', differs]
      simp only [List.map_cons, List.zip_cons_cons]
      rw [readMembers_cons (field?_key distinct head) unmet]
      cases read : field.read value with
      | error e => simp [readItems, read, bind, Except.bind, Except.map]
      | ok store =>
        have rest := inductionHypothesis (index + 1) (store record) tail once.2 later
          (by simpa using lengths)
        simp [readItems, read, bind, Except.bind, rest]

/-- An object with all members in the order of the fields is read as the list of their values. -/
theorem decode_ofMembers {values : List Json} (distinct : format.names.Nodup)
    (lengths : values.length = format.fields.length) :
    format.decode (.ofMembers (format.names.zip values)) = format.decode (.ofList values) := by
  have members : Json.ofMembers (format.names.zip values) =
      .object ((format.fields.map fun field => .ok field.key).zip values) .closed := by
    simp [Json.ofMembers, names, List.zip_map_left]
  have unmet : ∀ field ∈ format.fields, field.key ∉ ([] : List String) := by simp
  have read := readMembers_eq_readItems 0 format.blank distinct (List.Subset.refl _) distinct unmet
    lengths
  have complete : format.missing? (format.fields.map (·.key)).reverse = none := by
    simp only [missing?, List.find?_eq_none]
    intro field listed
    simpa using fun _ => ⟨field, listed, rfl⟩
  simp only [members, decode, Json.ofList, ofMembers, read, List.append_nil]
  cases format.readItems .closed 0 format.blank format.fields values with
  | error e => rfl
  | ok result =>
    simp [Except.map, complete, bind, Except.bind, pure, Except.pure, Json.checked,
      Except.mapError, ObjectEnd.wanted]

end RecordFormat

end WireSchema
