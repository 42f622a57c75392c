import WireSchema.Proofs.DocumentLevels
import Mathlib.Logic.Relation

/-! # Changes of a document that leave its module alone

A document may be changed in many ways without any effect on the module that is read from it: what
stands in an object may come in another order, a record may have members that it knows nothing of,
and a member may be left out if its value is the default of its part.

* `Place.Alike` — values that no decoder of a place tells apart.
* `Edit` — a change at any depth of a document.
* `Place.NoRepeats` — no record has a member twice, which every change preserves.
* `Edit.alike` — a change leaves what is read alone, and `Module.ofText_of_edits`, so do many.
-/

namespace WireSchema

/-! ## Values that are read alike -/

/-- Two values are read alike in a place: no decoder that is used there tells them apart. -/
def Place.Alike (place : Place) (json json' : Json) : Prop :=
  ∀ ⦃α : Type⦄ (decode : Decoder α), place.Uses decode → ∀ value,
    decode json = .ok value ↔ decode json' = .ok value

section

variable {place : Place} {json json' : Json}

theorem Place.Alike.symm (alike : place.Alike json json') : place.Alike json' json :=
  fun _ decode uses value => (alike decode uses value).symm

theorem Place.Alike.skip (alike : Place.plain.Alike json json') :
    json.skip = .ok () ↔ json'.skip = .ok () := by
  simpa [Json.checked, mapError_eq_ok] using alike _ .skip ()

theorem Part.Fits.read_iff {ρ : Type} {part : Part} {field : FieldFormat ρ}
    (fits : part.Fits field) (alike : part.place.Alike json json') (store : ρ → ρ) :
    field.read json = .ok store ↔ field.read json' = .ok store := by
  cases fits with
  | mandatory uses | optional uses =>
    simp only [FieldFormat.mandatory, FieldFormat.optional, map_eq_ok, alike _ uses]

end

namespace Place

variable {place : Place} {level : RecordLevel} {part : Part} {item item' value value' : Json}
  {members members' before after : List (Json.Key × Json)} {ending : ObjectEnd}

/-- Objects are read alike if they are as kinds, as records and when they are passed over: nothing
    else is written as an object. -/
theorem alike_object
    (skips : place = plain →
      ((Json.object members ending).skip = .ok () ↔ (Json.object members' ending).skip = .ok ()))
    (kinds : place = plain → ∀ kind,
      Kind.decode (.object members ending) = .ok kind ↔
        Kind.decode (.object members' ending) = .ok kind)
    (records : ∀ level, place = .record level → ∀ record,
      level.format.decode (.object members ending) = .ok record ↔
        level.format.decode (.object members' ending) = .ok record) :
    place.Alike (.object members ending) (.object members' ending) := by
  intro α decode uses value
  cases uses with
  | skip => simpa [Json.checked, mapError_eq_ok] using skips rfl
  | scalar scalar =>
    exact iff_of_false (scalar.ne_ok Json.isCompound_object value)
      (scalar.ne_ok Json.isCompound_object value)
  | scalars | records => simp [Json.decodeList]
  | kind => exact kinds rfl value
  | record => exact records _ rfl value
  | option =>
    simp only [decodeOption_of_isCompound Json.isCompound_object, map_eq_ok, records _ rfl]

theorem alike_reorder (perm : members.Perm members') :
    place.Alike (.object members ending) (.object members' ending) := by
  apply alike_object
  · intro _
    simp only [Json.skip_object_iff, perm.mem_iff]
  · intro _ kind
    have single (member : Json.Key × Json) : members = [member] ↔ members' = [member] := by
      rw [← List.perm_singleton, ← List.perm_singleton]
      exact ⟨perm.symm.trans, perm.trans⟩
    simp only [Kind.decode_object_iff, single]
  · intro level _ record
    exact RecordFormat.decode_object_perm level.separate perm

theorem alike_insert {key : String} (unknown : level.part? key = none)
    (wellFormed : value.WellFormed) :
    (record level).Alike (.object (before ++ after) ending)
      (.object (before ++ (.ok key, value) :: after) ending) := by
  refine alike_object (fun none => nomatch none) (fun none => nomatch none) ?_
  rintro _ ⟨⟩ record
  have none := RecordLevel.field?_eq_none_iff.mpr unknown
  exact RecordFormat.decode_object_insert none wellFormed.skip

theorem alike_drop {key : String} {store : level.Record → level.Record}
    {field : FieldFormat level.Record} (known : level.part? key = some part)
    (defaulted : part.defaulted = true)
    (once : (level.format.known (before ++ (.ok key, value) :: after)).Nodup)
    (found : level.format.field? key = some field) (read : field.read value = .ok store)
    (kept : store level.format.blank = level.format.blank) :
    (record level).Alike (.object (before ++ (.ok key, value) :: after) ending)
      (.object (before ++ after) ending) := by
  refine alike_object (fun none => nomatch none) (fun none => nomatch none) ?_
  rintro _ ⟨⟩ record
  refine RecordFormat.decode_object_drop level.separate once found read kept ?_
  rintro field listed rfl
  have found := RecordFormat.field?_key level.distinct listed
  obtain ⟨part', known', fits⟩ := RecordLevel.exists_part? found
  obtain rfl := Option.some.inj (known.symm.trans known')
  cases fits with
  | mandatory => cases defaulted
  | optional => rfl

/-- A member of a record does the same with a value that is read alike. -/
theorem effect_of_alike {key : Json.Key} {store : level.Record → level.Record}
    (alike : ((record level).member key).Alike value value')
    (effect : level.format.Effect (key, value) store) :
    level.format.Effect (key, value') store := by
  cases effect with
  | field found read =>
    obtain ⟨part, known, fits⟩ := RecordLevel.exists_part? found
    simp only [member, known, Option.map_some, Option.getD_some] at alike
    exact .field found ((fits.read_iff alike store).mp read)
  | other unknown skipped =>
    have none := RecordLevel.field?_eq_none_iff.mp unknown
    simp only [member, none, Option.map_none, Option.getD_none] at alike
    exact .other unknown (alike.skip.mp skipped)

theorem alike_member {key : Json.Key} (compound : value.IsCompound) (compound' : value'.IsCompound)
    (alike : (place.member key).Alike value value') :
    place.Alike (.object (before ++ (key, value) :: after) ending)
      (.object (before ++ (key, value') :: after) ending) := by
  apply alike_object
  · rintro rfl
    simp only [Json.skip_object_iff, List.forall_mem_append, List.forall_mem_cons, alike.skip]
  · intro _ kind
    -- the value of a kind is `null`
    have refused {value : Json} (compound : value.IsCompound) :
        Kind.decode (.object (before ++ (key, value) :: after) ending) ≠ .ok kind := by
      intro decoded
      obtain ⟨keyword, same, _⟩ := Kind.decode_object_iff.mp decoded
      have listed : (key, value) ∈ before ++ (key, value) :: after := by simp
      rw [same, List.mem_singleton] at listed
      cases listed
      exact compound
    exact iff_of_false (refused compound) (refused compound')
  · rintro level rfl record
    exact RecordFormat.decode_object_member fun store =>
      ⟨effect_of_alike alike, effect_of_alike alike.symm⟩

theorem alike_item {before after : List Json} {ending : ListEnd} (compound : item.IsCompound)
    (compound' : item'.IsCompound) (alike : (place.item before.length).Alike item item') :
    place.Alike (.array (before ++ item :: after) ending)
      (.array (before ++ item' :: after) ending) := by
  have records {level : RecordLevel} (alike : ((record level).item before.length).Alike item item')
      (result : level.Record) :
      level.format.decode (.array (before ++ item :: after) ending) = .ok result ↔
        level.format.decode (.array (before ++ item' :: after) ending) = .ok result := by
    refine RecordFormat.readItems_item fun field there store => ?_
    obtain ⟨part, listed, fits⟩ := exists_getElem?_of_forall₂ level.fits there
    simp only [Place.item, listed, Option.map_some, Option.getD_some] at alike
    exact fits.read_iff alike store
  intro α decode uses value
  cases uses with
  | skip =>
    have skips : item.skip = .ok () ↔ item'.skip = .ok () := Alike.skip alike
    obtain ⟨⟩ := value
    simp only [Json.checked, mapError_eq_ok, Json.skip_array_iff, List.forall_mem_append,
      List.forall_mem_cons, skips]
  | scalar scalar =>
    exact iff_of_false (scalar.ne_ok Json.isCompound_array value)
      (scalar.ne_ok Json.isCompound_array value)
  | scalars scalar =>
    exact Json.decodeList_item fun value =>
      iff_of_false (scalar.ne_ok compound value) (scalar.ne_ok compound' value)
  | kind => simp [Kind.decode]
  | record => exact records alike value
  | option => simp only [decodeOption_of_isCompound Json.isCompound_array, map_eq_ok, records alike]
  | records => exact Json.decodeList_item (alike _ .record)

end Place

/-! ## Changes -/

/-- The value of a member is what a record has without the member. -/
def RecordLevel.ReadsAsDefault (level : RecordLevel) (key : String) (value : Json) : Prop :=
  ∃ field store, level.format.field? key = some field ∧ field.read value = .ok store ∧
    store level.format.blank = level.format.blank

/-- A change of what stands in a place, at any depth. -/
inductive Edit : Place → Json → Json → Prop where
  /-- The members of an object come in another order. -/
  | reorder {place : Place} {members members' : List (Json.Key × Json)} {ending : ObjectEnd} :
      members.Perm members' → Edit place (.object members ending) (.object members' ending)
  /-- A record gets a member that it knows nothing of. -/
  | insert {level : RecordLevel} {key : String} {value : Json}
      {before after : List (Json.Key × Json)} {ending : ObjectEnd} :
      level.part? key = none → value.WellFormed →
      Edit (.record level) (.object (before ++ after) ending)
        (.object (before ++ (.ok key, value) :: after) ending)
  /-- A record loses a member that makes no difference. -/
  | drop {level : RecordLevel} {part : Part} {key : String} {value : Json}
      {before after : List (Json.Key × Json)} {ending : ObjectEnd} :
      level.part? key = some part → part.defaulted = true → level.ReadsAsDefault key value →
      Edit (.record level) (.object (before ++ (.ok key, value) :: after) ending)
        (.object (before ++ after) ending)
  | member {place : Place} {key : Json.Key} {value value' : Json}
      {before after : List (Json.Key × Json)} {ending : ObjectEnd} :
      Edit (place.member key) value value' →
      Edit place (.object (before ++ (key, value) :: after) ending)
        (.object (before ++ (key, value') :: after) ending)
  | item {place : Place} {item item' : Json} {before after : List Json} {ending : ListEnd} :
      Edit (place.item before.length) item item' →
      Edit place (.array (before ++ item :: after) ending)
        (.array (before ++ item' :: after) ending)

/-! ## Repeated keys -/

/-- No object in a value repeats a key.  What cannot be read as a text is no key. -/
inductive Json.KeysOnce : Json → Prop where
  | simple {json : Json} : ¬ json.IsCompound → KeysOnce json
  | array {items : List Json} {ending : ListEnd} :
      (∀ item ∈ items, KeysOnce item) → KeysOnce (.array items ending)
  | object {members : List (Key × Json)} {ending : ObjectEnd} :
      (members.filterMap (·.1.toOption)).Nodup → (∀ member ∈ members, KeysOnce member.2) →
      KeysOnce (.object members ending)

/-- No record in a place has a member twice.  Members that a record knows nothing of do not
    count. -/
inductive Place.NoRepeats : Place → Json → Prop where
  | plain {json : Json} : NoRepeats .plain json
  | simple {place : Place} {json : Json} : ¬ json.IsCompound → NoRepeats place json
  | array {place : Place} {items : List Json} {ending : ListEnd} :
      (∀ index item, items[index]? = some item → NoRepeats (place.item index) item) →
      NoRepeats place (.array items ending)
  | object {place : Place} {members : List (Json.Key × Json)} {ending : ObjectEnd} :
      (∀ level, place = .record level → (level.format.known members).Nodup) →
      (∀ member ∈ members, NoRepeats (place.member member.1) member.2) →
      NoRepeats place (.object members ending)

section

variable {place : Place} {members : List (Json.Key × Json)} {ending : ObjectEnd}

theorem Place.noRepeats_object_iff : place.NoRepeats (.object members ending) ↔
    (∀ level, place = .record level → (level.format.known members).Nodup) ∧
      ∀ member ∈ members, (place.member member.1).NoRepeats member.2 := by
  constructor
  · rintro (_ | simple | _ | ⟨keys, values⟩)
    · exact ⟨nofun, fun _ _ => .plain⟩
    · exact absurd Json.isCompound_object simple
    · exact ⟨keys, values⟩
  · rintro ⟨keys, values⟩
    exact .object keys values

theorem Place.noRepeats_array_iff {items : List Json} {ending : ListEnd} :
    place.NoRepeats (.array items ending) ↔
      ∀ index item, items[index]? = some item → (place.item index).NoRepeats item := by
  constructor
  · rintro (_ | simple | items)
    · exact fun _ _ _ => .plain
    · exact absurd Json.isCompound_array simple
    · exact items
  · exact .array

end

theorem Json.KeysOnce.noRepeats {json : Json} (once : json.KeysOnce) (place : Place) :
    place.NoRepeats json := by
  induction once generalizing place with
  | simple simple => exact .simple simple
  | array _ items =>
    refine .array fun index item there => ?_
    exact items item (List.mem_of_getElem? there) _
  | @object members _ keys _ values =>
    refine .object (fun level _ => ?_) fun member listed => values member listed _
    have known : level.format.known members =
        (members.filterMap (·.1.toOption)).filter fun key => (level.format.field? key).isSome :=
      List.filter_filterMap.symm
    rw [known]
    exact keys.filter _

namespace Edit

variable {place : Place} {json json' : Json}

theorem isCompound (edit : Edit place json json') : json.IsCompound ∧ json'.IsCompound := by
  cases edit <;> exact ⟨trivial, trivial⟩

/-- No change makes a record have a member twice. -/
theorem noRepeats (edit : Edit place json json') (once : place.NoRepeats json) :
    place.NoRepeats json' := by
  induction edit with
  | reorder perm =>
    rw [Place.noRepeats_object_iff] at once ⊢
    refine ⟨fun level same => ?_, fun member listed => ?_⟩
    · exact (RecordFormat.known_perm perm).nodup_iff.mp (once.1 level same)
    · exact once.2 member (perm.mem_iff.mpr listed)
  | insert unknown _ =>
    rw [Place.noRepeats_object_iff] at once ⊢
    refine ⟨?_, ?_⟩
    · rintro level ⟨⟩
      rw [RecordFormat.known_insert (RecordLevel.field?_eq_none_iff.mpr unknown)]
      exact once.1 _ rfl
    · simp only [List.forall_mem_append, List.forall_mem_cons, Place.member, unknown] at once ⊢
      exact ⟨once.2.1, .plain, once.2.2⟩
  | @drop level _ key value before after =>
    rw [Place.noRepeats_object_iff] at once ⊢
    have fewer : (before ++ after).Sublist (before ++ (.ok key, value) :: after) :=
      (List.sublist_cons_self _ _).append_left before
    refine ⟨fun level same => ?_, fun member listed => once.2 member (fewer.subset listed)⟩
    exact (once.1 level same).sublist (fewer.filterMap _)
  | member _ inductionHypothesis =>
    rw [Place.noRepeats_object_iff] at once ⊢
    refine ⟨fun level same => ?_, ?_⟩
    · rw [RecordFormat.known_member]
      exact once.1 level same
    · simp only [List.forall_mem_append, List.forall_mem_cons] at once ⊢
      exact ⟨once.2.1, inductionHypothesis once.2.2.1, once.2.2.2⟩
  | @item place item item' before after _ _ inductionHypothesis =>
    rw [Place.noRepeats_array_iff] at once ⊢
    intro index found there
    -- the changed item keeps its index, and so its place
    obtain rfl | other := eq_or_ne index before.length
    · obtain rfl : item' = found := by simpa using there
      exact inductionHypothesis (once _ _ (by simp))
    · have elsewhere : before ++ item' :: after =
          (before ++ item :: after).set before.length item' := by simp
      rw [elsewhere, List.getElem?_set_ne other.symm] at there
      exact once index found there

/-- A change leaves what is read alone. -/
theorem alike (edit : Edit place json json') (once : place.NoRepeats json) :
    place.Alike json json' := by
  induction edit with
  | reorder perm => exact Place.alike_reorder perm
  | insert unknown wellFormed => exact Place.alike_insert unknown wellFormed
  | drop known defaulted default =>
    obtain ⟨field, store, found, read, kept⟩ := default
    -- without the invariant a second member with the key would take the place of the lost one
    have keys := (Place.noRepeats_object_iff.mp once).1 _ rfl
    exact Place.alike_drop known defaulted keys found read kept
  | member edit inductionHypothesis =>
    obtain ⟨compound, compound'⟩ := edit.isCompound
    have values := (Place.noRepeats_object_iff.mp once).2
    refine Place.alike_member compound compound' (inductionHypothesis ?_)
    exact values _ (List.mem_append_right _ List.mem_cons_self)
  | item edit inductionHypothesis =>
    obtain ⟨compound, compound'⟩ := edit.isCompound
    have items := Place.noRepeats_array_iff.mp once
    refine Place.alike_item compound compound' (inductionHypothesis ?_)
    exact items _ _ (by simp)

/-- Many changes leave what is read alone. -/
theorem alike_of_many (edits : Relation.ReflTransGen (Edit place) json json')
    (once : place.NoRepeats json) : place.NoRepeats json' ∧ place.Alike json json' := by
  induction edits with
  | refl => exact ⟨once, fun _ _ _ _ => Iff.rfl⟩
  | tail _ edit inductionHypothesis =>
    obtain ⟨once, before⟩ := inductionHypothesis
    refine ⟨edit.noRepeats once, fun α decode uses value => ?_⟩
    exact (before decode uses value).trans (edit.alike once decode uses value)

end Edit

/-! ## Texts -/

/-- The text of a document, with its tree. -/
def Json.Spells (text : String) (json : Json) : Prop :=
  ∃ rest, read text = (json, rest) ∧ endsWell rest = true

theorem Module.ofText_eq_ok_iff {text : String} {json : Json} {module : Module}
    (spelled : Json.Spells text json) :
    Module.ofText text = .ok module ↔ Module.format.decode json = .ok module := by
  obtain ⟨rest, read, ends⟩ := spelled
  simp [Module.ofText, Decoder.ofText, read, ends, bind_eq_ok, pure, Except.pure]

/-- Changes of a document that repeats no key leave the module alone that is read from it. -/
theorem Module.ofText_of_edits {text text' : String} {json json' : Json}
    (spelled : Json.Spells text json) (spelled' : Json.Spells text' json') (once : json.KeysOnce)
    (edits : Relation.ReflTransGen (Edit (.record .module)) json json') (module : Module) :
    Module.ofText text = .ok module ↔ Module.ofText text' = .ok module := by
  obtain ⟨_, alike⟩ := Edit.alike_of_many edits (once.noRepeats _)
  rw [Module.ofText_eq_ok_iff spelled, Module.ofText_eq_ok_iff spelled']
  exact alike Module.format.decode .record module

/-- A struct loses its empty list of fields and gets a note, and the members of its module change
    places. -/
theorem Module.ofText_of_edits_note :
    Module.ofText "\x7b\"name\":\"m\",\"structs\":[\x7b\"name\":\"S\",\"fields\":[]\x7d]\x7d" =
        .ok ((Module.empty "m" "").addStruct (.empty "S")) ∧
      Module.ofText "\x7b\"structs\":[\x7b\"note\":true,\"name\":\"S\"\x7d],\"name\":\"m\"\x7d" =
        .ok ((Module.empty "m" "").addStruct (.empty "S")) := by
  let name (s : String) : Json.Key × Json := (.ok "name", .text (.ok s))
  let fields : Json.Key × Json := (.ok "fields", .array [] .closed)
  let note : Json.Key × Json := (.ok "note", .bool true)
  let structs (struct : List (Json.Key × Json)) : Json.Key × Json :=
    (.ok "structs", .array [.object struct .closed] .closed)
  have spelled : Json.Spells
      "\x7b\"name\":\"m\",\"structs\":[\x7b\"name\":\"S\",\"fields\":[]\x7d]\x7d"
      (.object [name "m", structs [name "S", fields]] .closed) := ⟨some [], by cbv, rfl⟩
  have spelled' : Json.Spells
      "\x7b\"structs\":[\x7b\"note\":true,\"name\":\"S\"\x7d],\"name\":\"m\"\x7d"
      (.object [structs [note, name "S"], name "m"] .closed) := ⟨some [], by cbv, rfl⟩
  have once : Json.KeysOnce (.object [name "m", structs [name "S", fields]] .closed) := by
    have text (s : String) : Json.KeysOnce (.text (.ok s)) := .simple id
    have items : Json.KeysOnce (.array [] .closed) := .array nofun
    have struct : Json.KeysOnce (.object [name "S", fields] .closed) :=
      .object (by decide) (by simpa [name, fields, items] using text "S")
    have list : Json.KeysOnce (structs [name "S", fields]).2 := .array (by simp [struct])
    exact .object (by decide) (by simpa [name, list] using text "m")
  have within {struct struct' : List (Json.Key × Json)}
      (edit : Edit (.record .struct) (.object struct .closed) (.object struct' .closed)) :
      Edit (.record .module) (.object ([name "m"] ++ structs struct :: []) .closed)
        (.object ([name "m"] ++ structs struct' :: []) .closed) :=
    .member (@Edit.item _ _ _ [] [] _ edit)
  have dropped : Edit (.record .struct) (.object ([name "S"] ++ fields :: []) .closed)
      (.object ([name "S"] ++ []) .closed) := .drop rfl rfl ⟨_, _, rfl, rfl, rfl⟩
  have noted : Edit (.record .struct) (.object ([] ++ [name "S"]) .closed)
      (.object ([] ++ note :: [name "S"]) .closed) := .insert rfl .bool
  have edits := ((Relation.ReflTransGen.single (within dropped)).tail (within noted)).tail
    (.reorder (.swap (structs [note, name "S"]) (name "m") []))
  have alike := ofText_of_edits spelled spelled' once edits
  constructor
  · cbv
  · apply (alike _).mp
    cbv

end WireSchema
