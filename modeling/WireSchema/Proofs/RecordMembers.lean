import WireSchema.Proofs.Records
import Mathlib.Data.List.Pairwise
import Mathlib.Data.List.Perm.Basic

/-! # What the members of an object amount to

An object is read as a record if each of its members can be read or passed over, no field is met
twice, and no required field is missed.  The order of the members and those of no field do not
matter.

* `FieldFormat.Apart` — fields that store different parts of a record.
* `RecordFormat.Effect` — what a member does to a record, and `RecordFormat.Fills`, what the members
  of an object make of it.
* `RecordFormat.decode_object_iff` — when an object is read, and as which record.
* `decode_object_perm`, `decode_object_member`, `decode_object_insert` and `decode_object_drop` —
  changes of an object that leave its record alone, and `readItems_item`, one of a list.
-/

namespace WireSchema

/-! ## Fields -/

namespace FieldFormat

variable {ρ α β : Type}

/-- Two fields store different parts of a record. -/
def Apart (field other : FieldFormat ρ) : Prop :=
  ∀ ⦃json json' store store'⦄, field.read json = .ok store → other.read json' = .ok store' →
    ∀ record, store (store' record) = store' (store record)

instance : Std.Symm (@Apart ρ) where
  symm _ _ apart _ _ _ _ read read' record := (apart read' read record).symm

theorem apart_of_comm {field other : FieldFormat ρ} {decode : Decoder α} {decode' : Decoder β}
    {store : α → ρ → ρ} {store' : β → ρ → ρ}
    (reads : field.read = fun json => (decode json).map store)
    (reads' : other.read = fun json => (decode' json).map store')
    (comm : ∀ a b record, store a (store' b record) = store' b (store a record)) :
    field.Apart other := by
  intro json json' stored stored' read read'
  rw [reads, map_eq_ok] at read
  rw [reads', map_eq_ok] at read'
  obtain ⟨a, _, rfl⟩ := read
  obtain ⟨b, _, rfl⟩ := read'
  exact comm a b

end FieldFormat

namespace RecordFormat

variable {ρ : Type}

/-! ## Effects -/

/-- What a member does to a record.  One of a field stores its value, and one of no field only has
    to be passed over. -/
inductive Effect (format : RecordFormat ρ) : Json.Key × Json → (ρ → ρ) → Prop where
  | field {key : String} {value : Json} {field : FieldFormat ρ} {store : ρ → ρ} :
      format.field? key = some field → field.read value = .ok store →
      Effect format (.ok key, value) store
  | other {key : String} {value : Json} :
      format.field? key = none → value.skip = .ok () → Effect format (.ok key, value) id

/-- What members make of a record, one after the other. -/
inductive Fills (format : RecordFormat ρ) : ρ → List (Json.Key × Json) → ρ → Prop where
  | nil {record : ρ} : Fills format record [] record
  | cons {record result : ρ} {member : Json.Key × Json} {members : List (Json.Key × Json)}
      {store : ρ → ρ} :
      Effect format member store → Fills format (store record) members result →
      Fills format record (member :: members) result

/-- The key of a member, if it is that of a field. -/
def knownKey? (format : RecordFormat ρ) (member : Json.Key × Json) : Option String :=
  member.1.toOption.filter fun key => (format.field? key).isSome

/-- The keys of fields that an object has. -/
def known (format : RecordFormat ρ) (members : List (Json.Key × Json)) : List String :=
  members.filterMap format.knownKey?

variable {format : RecordFormat ρ} {seen met : List String} {record result : ρ}
  {member member' : Json.Key × Json} {members members' before after : List (Json.Key × Json)}
  {ending : ObjectEnd} {key : String} {value value' : Json} {field : FieldFormat ρ}

theorem fills_cons_iff : Fills format record (member :: members) result ↔
    ∃ store, Effect format member store ∧ Fills format (store record) members result := by
  constructor
  · rintro (_ | ⟨effect, fills⟩)
    exact ⟨_, effect, fills⟩
  · rintro ⟨_, effect, fills⟩
    exact .cons effect fills

theorem fills_append_iff : Fills format record (before ++ after) result ↔
    ∃ middle, Fills format record before middle ∧ Fills format middle after result := by
  induction before generalizing record with
  | nil =>
    constructor
    · intro fills
      exact ⟨record, .nil, fills⟩
    · rintro ⟨_, ⟨⟩, fills⟩
      exact fills
  | cons first before inductionHypothesis =>
    simp only [List.cons_append, fills_cons_iff, inductionHypothesis]
    constructor
    · rintro ⟨store, effect, middle, fills, rest⟩
      exact ⟨middle, ⟨store, effect, fills⟩, rest⟩
    · rintro ⟨middle, ⟨store, effect, fills⟩, rest⟩
      exact ⟨store, effect, middle, fills, rest⟩

theorem effect_iff_of_some {store : ρ → ρ} (found : format.field? key = some field) :
    Effect format (.ok key, value) store ↔ field.read value = .ok store := by
  constructor
  · rintro (⟨found', read⟩ | ⟨unknown, _⟩)
    · obtain rfl := Option.some.inj (found.symm.trans found')
      exact read
    · simp [found] at unknown
  · exact .field found

theorem effect_iff_of_none {store : ρ → ρ} (unknown : format.field? key = none) :
    Effect format (.ok key, value) store ↔ value.skip = .ok () ∧ store = id := by
  constructor
  · rintro (⟨found, _⟩ | ⟨_, skipped⟩)
    · simp [unknown] at found
    · exact ⟨skipped, rfl⟩
  · rintro ⟨skipped, rfl⟩
    exact .other unknown skipped

theorem known_cons_of_some (found : format.field? key = some field) :
    format.known ((.ok key, value) :: members) = key :: format.known members :=
  List.filterMap_cons_some (by simp [knownKey?, Except.toOption, found])

theorem known_cons_of_none (unknown : format.field? key = none) :
    format.known ((.ok key, value) :: members) = format.known members :=
  List.filterMap_cons_none (by simp [knownKey?, Except.toOption, unknown])

/-- Members are stored if each has its effect and none of them is of a field that has been met. -/
theorem readMembers_eq_ok_iff : format.readMembers seen record members = .ok (met, result) ↔
    Fills format record members result ∧ (format.known members).Nodup ∧
      (∀ key ∈ format.known members, key ∉ seen) ∧
      met = (format.known members).reverse ++ seen := by
  induction members generalizing seen record with
  | nil =>
    simp only [readMembers, known, List.filterMap_nil, Except.ok.injEq, Prod.mk.injEq]
    constructor
    · rintro ⟨rfl, rfl⟩
      exact ⟨.nil, by simp⟩
    · rintro ⟨⟨⟩, _, _, rfl⟩
      simp
  | cons member members inductionHypothesis =>
    obtain ⟨problem | key, value⟩ := member
    · constructor
      · intro read
        cases read
      · rintro ⟨_ | ⟨effect, _⟩, _⟩
        cases effect
    · simp only [readMembers, Json.checked, bind_eq_ok, mapError_eq_ok, Except.ok.injEq,
        exists_eq_left']
      cases found : format.field? key with
      | none =>
        simp [bind_eq_ok, mapError_eq_ok, inductionHypothesis, fills_cons_iff,
          effect_iff_of_none found, known_cons_of_none found, Unique.exists_iff, and_assoc]
      | some field =>
        by_cases again : key ∈ seen
        · simp [again, known_cons_of_some found, bind_eq_ok]
        · simp only [again, if_false, bind_eq_ok, inductionHypothesis, fills_cons_iff,
            effect_iff_of_some found, known_cons_of_some found, List.nodup_cons,
            List.forall_mem_cons]
          constructor
          · rintro ⟨store, read, fills, once, new, rfl⟩
            have unmet : key ∉ format.known members :=
              fun listed => new key listed List.mem_cons_self
            have fresh : ∀ other ∈ format.known members, other ∉ seen :=
              fun other listed => mt (List.mem_cons_of_mem key) (new other listed)
            exact ⟨⟨store, read, fills⟩, ⟨unmet, once⟩, ⟨not_false, fresh⟩, by simp⟩
          · rintro ⟨⟨store, read, fills⟩, ⟨unmet, once⟩, ⟨_, new⟩, rfl⟩
            refine ⟨store, read, fills, once, fun other listed => ?_, by simp⟩
            rw [List.mem_cons, not_or]
            exact ⟨fun same => unmet (same ▸ listed), new other listed⟩

/-- An object is read as a record exactly if its members make that record of a blank one, no field
    is met twice, and no required field is missed. -/
theorem decode_object_iff : format.decode (.object members ending) = .ok result ↔
    Fills format format.blank members result ∧ (format.known members).Nodup ∧
      ending.wanted = .ok () ∧
      ∀ field ∈ format.fields, field.required = true → field.key ∈ format.known members := by
  have complete : format.missing? (format.known members).reverse = none ↔
      ∀ field ∈ format.fields, field.required = true → field.key ∈ format.known members := by
    simp [missing?, List.find?_eq_none]
  simp only [decode, ofMembers, bind_eq_ok, Json.checked, mapError_eq_ok, Prod.exists,
    readMembers_eq_ok_iff, ← complete]
  constructor
  · rintro ⟨met, record, ⟨fills, nodup, _, rfl⟩, _, ends, read⟩
    rw [List.append_nil] at read
    split at read
    · cases read
    · next none =>
      cases read
      exact ⟨fills, nodup, ends, none⟩
  · rintro ⟨fills, nodup, ends, none⟩
    refine ⟨_, result, ⟨fills, nodup, by simp, rfl⟩, (), ends, ?_⟩
    rw [List.append_nil, none]
    rfl

/-! ## The order of members -/

/-- The fields store different parts of a record. -/
def Separate (format : RecordFormat ρ) : Prop :=
  format.fields.Pairwise FieldFormat.Apart

theorem mem_of_field? (found : format.field? key = some field) :
    field ∈ format.fields ∧ field.key = key :=
  ⟨List.mem_of_find?_eq_some found, by simpa using List.find?_some found⟩

/-- Two members have the same effect in either order, unless they are of the same field. -/
theorem Effect.comm {store store' : ρ → ρ} (separate : format.Separate)
    (effect : Effect format member store) (effect' : Effect format member' store')
    (apart : (format.known [member, member']).Nodup) (record : ρ) :
    store (store' record) = store' (store record) := by
  cases effect with
  | other => rfl
  | @field _ _ field _ found read =>
    cases effect' with
    | other => rfl
    | @field _ _ other _ found' read' =>
      obtain ⟨listed, rfl⟩ := mem_of_field? found
      obtain ⟨listed', rfl⟩ := mem_of_field? found'
      have keys : field.key ≠ other.key := by
        rw [known_cons_of_some found, known_cons_of_some found'] at apart
        exact fun same => (List.nodup_cons.mp apart).1 (same ▸ List.mem_cons_self)
      have differs : field ≠ other := fun same => keys (congrArg FieldFormat.key same)
      have alike := separate.forall listed listed' differs
      exact alike read read' record

/-- The keys of fields are known from the keys of the members. -/
theorem known_member {key : Json.Key} : format.known (before ++ (key, value) :: after) =
    format.known (before ++ (key, value') :: after) := by
  simp [known, List.filterMap_append, List.filterMap_cons, knownKey?]

theorem known_insert (unknown : format.field? key = none) :
    format.known (before ++ (.ok key, value) :: after) = format.known (before ++ after) := by
  have split (members members' : List (Json.Key × Json)) :
      format.known (members ++ members') = format.known members ++ format.known members' :=
    List.filterMap_append
  rw [split, split, known_cons_of_none unknown]

theorem known_perm (perm : members.Perm members') :
    (format.known members).Perm (format.known members') :=
  perm.filterMap _

/-- Members make the same of a record in every order, if no field is met twice. -/
theorem Fills.perm (separate : format.Separate) (perm : members.Perm members')
    (once : (format.known members).Nodup) (fills : Fills format record members result) :
    Fills format record members' result := by
  induction perm generalizing record with
  | nil => exact fills
  | cons member _ inductionHypothesis =>
    cases fills with
    | cons effect fills =>
      refine .cons effect (inductionHypothesis (once.sublist ?_) fills)
      exact (List.sublist_cons_self _ _).filterMap _
  | swap first second rest =>
    cases fills with
    | cons effect fills =>
      cases fills with
      | cons effect' fills =>
        have apart : (format.known [second, first]).Nodup :=
          once.sublist ((List.sublist_append_left [second, first] rest).filterMap _)
        rw [← effect.comm separate effect' apart] at fills
        exact .cons effect' (.cons effect fills)
  | trans perm _ first second =>
    exact second ((known_perm perm).nodup_iff.mp once) (first once fills)

/-- The order of its members does not matter to an object. -/
theorem decode_object_perm (separate : format.Separate) (perm : members.Perm members') :
    format.decode (.object members ending) = .ok result ↔
      format.decode (.object members' ending) = .ok result := by
  have keys : (format.known members).Perm (format.known members') := known_perm perm
  have fills : (format.known members).Nodup →
      (Fills format format.blank members result ↔ Fills format format.blank members' result) :=
    fun once => ⟨.perm separate perm once, .perm separate perm.symm (keys.nodup_iff.mp once)⟩
  simp only [decode_object_iff, ← keys.nodup_iff, ← keys.mem_iff]
  constructor
  · rintro ⟨filled, once, rest⟩
    exact ⟨(fills once).mp filled, once, rest⟩
  · rintro ⟨filled, once, rest⟩
    exact ⟨(fills once).mpr filled, once, rest⟩

/-! ## Other members -/

/-- Members with the same effects under the same key are as good as each other. -/
theorem decode_object_member {key : Json.Key}
    (same : ∀ store, Effect format (key, value) store ↔ Effect format (key, value') store) :
    format.decode (.object (before ++ (key, value) :: after) ending) = .ok result ↔
      format.decode (.object (before ++ (key, value') :: after) ending) = .ok result := by
  have keys : format.known (before ++ (key, value) :: after) =
      format.known (before ++ (key, value') :: after) := known_member
  simp only [decode_object_iff, keys, fills_append_iff, fills_cons_iff, same]

/-- A member of no field makes no difference to an object. -/
theorem decode_object_insert (unknown : format.field? key = none) (skipped : value.skip = .ok ()) :
    format.decode (.object (before ++ after) ending) = .ok result ↔
      format.decode (.object (before ++ (.ok key, value) :: after) ending) = .ok result := by
  simp only [decode_object_iff, known_insert unknown, fills_append_iff, fills_cons_iff,
    effect_iff_of_none unknown, skipped, true_and, exists_eq_left, id_eq]

/-- A member that stores what a blank record has makes no difference to an object, if its field has
    a default. -/
theorem decode_object_drop {store : ρ → ρ} (separate : format.Separate)
    (once : (format.known (before ++ (.ok key, value) :: after)).Nodup)
    (found : format.field? key = some field) (read : field.read value = .ok store)
    (kept : store format.blank = format.blank)
    (optional : ∀ field ∈ format.fields, field.key = key → field.required = false) :
    format.decode (.object (before ++ (.ok key, value) :: after) ending) = .ok result ↔
      format.decode (.object (before ++ after) ending) = .ok result := by
  -- what the member does to a blank record shows if it comes first
  have front : (before ++ (.ok key, value) :: after).Perm ((.ok key, value) :: (before ++ after)) :=
    List.perm_middle
  rw [(known_perm front).nodup_iff] at once
  rw [decode_object_perm separate front]
  rw [known_cons_of_some found, List.nodup_cons] at once
  have complete : (∀ field ∈ format.fields, field.required = true →
        field.key ∈ key :: format.known (before ++ after)) ↔
      ∀ field ∈ format.fields, field.required = true →
        field.key ∈ format.known (before ++ after) := by
    refine forall₃_congr fun field listed required => ?_
    have other : field.key ≠ key := by
      intro same
      simp [optional field listed same] at required
    simp [other]
  simp only [decode_object_iff, known_cons_of_some found, fills_cons_iff,
    effect_iff_of_some found, read, Except.ok.injEq, exists_eq_left', kept, List.nodup_cons, once,
    not_false_eq_true, true_and, complete]

/-! ## Items -/

/-- Items that their field reads alike are as good as each other. -/
theorem readItems_item {index : Nat} {fields : List (FieldFormat ρ)} {before after : List Json}
    {item item' : Json} {ending : ListEnd}
    (same : ∀ field ∈ fields[before.length]?, ∀ store,
      field.read item = .ok store ↔ field.read item' = .ok store) :
    format.readItems ending index record fields (before ++ item :: after) = .ok result ↔
      format.readItems ending index record fields (before ++ item' :: after) = .ok result := by
  induction before generalizing index record fields with
  | nil =>
    cases fields with
    | nil => simp [readItems]
    | cons field fields =>
      have reads := same field rfl
      simp only [List.nil_append, readItems, bind_eq_ok, reads]
  | cons first before inductionHypothesis =>
    cases fields with
    | nil => simp [readItems]
    | cons field fields =>
      have rest (store : ρ → ρ) :
          format.readItems ending (index + 1) (store record) fields (before ++ item :: after) =
              .ok result ↔
            format.readItems ending (index + 1) (store record) fields (before ++ item' :: after) =
              .ok result := inductionHypothesis same
      simp only [List.cons_append, readItems, bind_eq_ok, rest]

end RecordFormat

end WireSchema
