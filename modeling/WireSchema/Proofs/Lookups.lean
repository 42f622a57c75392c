import WireSchema.Proofs.Counterparts

/-! # What a rendering looks up

The scope of a rendering is seen only through the references that are looked up in it.  They are
listed here, and two scopes that agree on them render alike, events and failures included.

* `Scope.lookups` — the references that are looked up for a field: its own, and that of the key
  where the field is a map.
* `Scope.Agree` — two scopes lead the same references to the same declarations.
* `bind_of_agree` and `renderModule_congr` — such scopes bind a field and render a module alike.
* `bind_events` — binding a field reports the lookups that fail, and nothing else.
-/

namespace WireSchema

/-- The reference of a field, if its kind is one of those that refer. -/
def Field.reference? (field : Field) : Option TypeRef :=
  if field.kind.isReference then field.target else none

theorem Field.reference?_eq_some_iff {field : Field} {ref : TypeRef} :
    field.reference? = some ref ↔ field.kind.isReference ∧ field.target = some ref := by
  unfold reference?
  split
  · next reference => simp [reference]
  · next basic => simp [basic]

namespace Scope

/-! ## Lookups -/

/-- The field that keys a map field. -/
def keyField? (scope : Scope) (field : Field) : Option Field :=
  if field.kind = .struct ∧ field.repeated then
    field.mapKey.bind fun name => (scope.mapKeyField field name).toOption
  else none

/-- The references that are looked up for a field, in their order. -/
def lookups (scope : Scope) (field : Field) : List TypeRef :=
  field.reference?.toList ++ ((scope.keyField? field).bind Field.reference?).toList

/-- The references that are looked up for the structs of a module. -/
def moduleLookups (scope : Scope) (module : Module) : List TypeRef :=
  module.structs.flatMap fun struct => struct.fields.flatMap scope.lookups

variable {scope other : Scope} {viewpoint : String} {field : Field}

theorem keyField?_eq_some_iff {key : Field} :
    scope.keyField? field = some key ↔ scope.MapKey field key := by
  have toOption_eq {outcome : Except FieldError Field} :
      outcome.toOption = some key ↔ outcome = .ok key := by
    cases outcome <;> simp [Except.toOption]
  unfold keyField?
  split
  · next collection =>
    simp only [Option.bind_eq_some_iff, toOption_eq]
    exact ⟨fun found => ⟨collection.1, collection.2, found⟩, fun mapKey => mapKey.found⟩
  · next single =>
    simp only [reduceCtorEq, false_iff]
    exact fun mapKey => single ⟨mapKey.kind, mapKey.repeated⟩

/-- A field looks its own reference up, and a map that of its key. -/
theorem mem_lookups {ref : TypeRef} :
    ref ∈ scope.lookups field ↔
      (field.kind.isReference ∧ field.target = some ref) ∨
        ∃ key, scope.MapKey field key ∧ key.kind.isReference ∧ key.target = some ref := by
  simp only [lookups, List.mem_append, Option.mem_toList, Option.bind_eq_some_iff,
    keyField?_eq_some_iff, Field.reference?_eq_some_iff]

/-! ## Scopes that agree -/

/-- Two scopes place declarations alike, and lead the given references to the same. -/
structure Agree (scope other : Scope) (refs : List TypeRef) : Prop where
  tag : other.namespaceTag = scope.namespaceTag
  resolve : ∀ ref ∈ refs, other.resolve ref = scope.resolve ref

theorem Agree.mono {refs fewer : List TypeRef} (agree : scope.Agree other refs)
    (subset : fewer ⊆ refs) : scope.Agree other fewer :=
  ⟨agree.tag, fun ref member => agree.resolve ref (subset member)⟩

theorem Agree.of_mem {α : Type} {xs : List α} {x : α} {refs : α → List TypeRef}
    (agree : scope.Agree other (xs.flatMap refs)) (member : x ∈ xs) :
    scope.Agree other (refs x) :=
  agree.mono fun _ listed => List.mem_flatMap.mpr ⟨x, member, listed⟩

theorem placementOf_of_tag (tag : other.namespaceTag = scope.namespaceTag) (module : Module)
    (declaration : Declaration) :
    other.placementOf module declaration = scope.placementOf module declaration := by
  unfold placementOf
  rw [tag]

theorem Agree.sameName {refs : List TypeRef} {ref : TypeRef} (agree : scope.Agree other refs)
    (member : ref ∈ refs) : scope.SameName other ref := by
  unfold SameName
  rw [agree.resolve ref member]
  cases scope.resolve ref with
  | none => exact .none
  | some declared => exact .some ⟨rfl, placementOf_of_tag agree.tag _ _⟩

theorem Agree.sameKey {refs : List TypeRef} {ref : TypeRef} (agree : scope.Agree other refs)
    (member : ref ∈ refs) (key : String) : scope.SameKey other ref key := by
  unfold SameKey struct?
  rw [agree.resolve ref member]
  refine option_rel_refl (fun struct => ?_) _
  exact option_rel_refl Field.AlikeAsKey.refl _

theorem Agree.seesAlike (agree : scope.Agree other (scope.lookups field)) :
    scope.SeesAlike other field where
  name := by
    intro ref reference target
    exact agree.sameName (mem_lookups.mpr (.inl ⟨reference, target⟩))
  key := by
    intro ref name isMap
    have reference := Kind.isReference_iff.mpr (.inr isMap.kind)
    exact agree.sameKey (mem_lookups.mpr (.inl ⟨reference, isMap.target⟩)) name
  keyName := by
    intro key ref mapKey reference target
    exact agree.sameName (mem_lookups.mpr (.inr ⟨key, mapKey, reference, target⟩))

theorem bind_of_agree (agree : scope.Agree other (scope.lookups field)) :
    other.bind viewpoint field = scope.bind viewpoint field :=
  bind_of_seesAlike agree.seesAlike

theorem renderDeclaration_of_agree {module : Module} {declaration : Declaration} {banner : String}
    (member : declaration ∈ module.declarations)
    (agree : scope.Agree other (scope.moduleLookups module)) :
    other.renderDeclaration banner module declaration =
      scope.renderDeclaration banner module declaration := by
  apply renderDeclaration_congr (placementOf_of_tag agree.tag module declaration)
  rintro struct rfl field declared
  have listed : struct ∈ module.structs := by simpa [Module.declarations] using member
  exact bind_of_agree ((agree.of_mem listed).of_mem declared)

/-! ## Warnings -/

/-- The warning about a reference, if it leads nowhere. -/
def warning? (scope : Scope) (ref : TypeRef) : Option Event :=
  match scope.resolve ref with
  | none => some (.undeclared ref.name)
  | some _ => none

theorem className_events {ε : Type} (ref : TypeRef) :
    (scope.className viewpoint ref : Logged ε String).events = (scope.warning? ref).toList := by
  unfold className warning?
  cases scope.resolve ref with
  | none => rfl
  | some declared => rfl

theorem referencedClass_events :
    (scope.referencedClass viewpoint field).events =
      field.target.toList.filterMap scope.warning? := by
  unfold referencedClass
  cases field.target with
  | none => rfl
  | some ref => rw [className_events]; cases warned : scope.warning? ref <;> simp [warned]

theorem singleType_events :
    (scope.singleType viewpoint field).events =
      field.reference?.toList.filterMap scope.warning? := by
  unfold singleType Field.reference?
  cases kind : field.kind with
  | enum | struct =>
    simp only [Kind.isReference, if_true]
    rw [Logged.bind_events_of_silent fun _ => rfl, referencedClass_events]
  | _ => rfl

theorem bindEnum_events (kind : field.kind = .enum) :
    (scope.bindEnum viewpoint field).events =
      (scope.lookups field).filterMap scope.warning? := by
  have unkeyed : scope.keyField? field = none := if_neg (by simp [kind])
  have target : field.reference? = field.target := if_pos (by rw [kind]; rfl)
  unfold bindEnum lookups
  rw [Logged.bind_events_of_silent fun name => by split <;> rfl, referencedClass_events, unkeyed,
    target]
  simp

theorem bindStruct_events (kind : field.kind = .struct) :
    (scope.bindStruct viewpoint field).events =
      (scope.lookups field).filterMap scope.warning? := by
  have target : field.reference? = field.target := if_pos (by rw [kind]; rfl)
  have looked : (scope.referencedClass viewpoint field).events =
      field.target.toList.filterMap scope.warning? := referencedClass_events
  unfold bindStruct lookups
  rw [List.filterMap_append, target, ← looked]
  cases named : (scope.referencedClass viewpoint field).outcome with
  | error e =>
    -- without a class there is no struct that a key could be a field of
    have unkeyed : scope.keyField? field = none := by
      rw [Option.eq_none_iff_forall_ne_some]
      intro key found
      obtain ⟨ref, _, _, target, _⟩ := (keyField?_eq_some_iff.mp found).keyOfStruct
      obtain ⟨name, ended⟩ : ∃ name, (scope.referencedClass viewpoint field).outcome = .ok name :=
        ⟨_, referencedClass_outcome_ok.mpr ⟨ref, target, rfl⟩⟩
      rw [named] at ended
      cases ended
    rw [Logged.bind_events_of_error named, unkeyed]
    simp
  | ok name =>
    rw [Logged.bind_events_of_ok named]
    congr 1
    unfold keyField?
    cases repeated : field.repeated with
    | false => simp
    | true =>
      cases keyed : field.mapKey with
      | none => simp
      | some keyName =>
        simp only [kind, and_self, if_true, Option.bind_some, Bool.not_true, Bool.false_eq_true,
          if_false]
        cases found : scope.mapKeyField field keyName with
        | error e => rfl
        | ok key =>
          rw [Logged.bind_events_of_ok (a := key) rfl,
            Logged.bind_events_of_silent fun _ => rfl, singleType_events]
          rfl

/-- Binding a field reports the lookups that fail, in their order, and nothing else. -/
theorem bind_events :
    (scope.bind viewpoint field).events = (scope.lookups field).filterMap scope.warning? := by
  cases kind : field.kind with
  | enum => simp only [bind, kind, bindEnum_events kind]
  | struct => simp only [bind, kind, bindStruct_events kind]
  | _ =>
    have nothing : scope.lookups field = [] := by
      simp [lookups, Field.reference?, keyField?, kind, Kind.isReference]
    rw [nothing]
    unfold bind
    cases repeated : field.repeated <;> simp only [kind] <;> rfl

/-- Rendering a declaration reports only that it starts, and lookups that fail. -/
theorem mem_renderDeclaration_events {module : Module} {declaration : Declaration}
    {banner : String} {event : Event}
    (member : event ∈ (scope.renderDeclaration banner module declaration).events) :
    event = declaration.renderingEvent (scope.placementOf module declaration) ∨
      ∃ ref, event = .undeclared ref.name ∧ scope.resolve ref = none := by
  have warned {fields : List Field} {placed : String}
      (reported : event ∈ (Logged.forEach (scope.bindField placed) fields).events) :
      ∃ ref, event = .undeclared ref.name ∧ scope.resolve ref = none := by
    obtain ⟨field, _, reported⟩ := Logged.mem_forEach_events reported
    rcases Logged.mem_bind_events reported with checked | ⟨_, reported⟩
    · cases checked
    · rw [Logged.bind_events_of_silent fun _ => rfl, bind_events, List.mem_filterMap] at reported
      obtain ⟨ref, _, warning⟩ := reported
      unfold warning? at warning
      split at warning
      · next nowhere =>
        cases warning
        exact ⟨ref, rfl, nowhere⟩
      · cases warning
  unfold renderDeclaration at member
  rcases Logged.mem_bind_events member with opening | ⟨_, member⟩
  · exact .inl (List.mem_singleton.mp opening)
  · rw [Logged.bind_events_of_silent fun _ => rfl] at member
    cases declaration with
    | enum decl => cases member
    | struct decl =>
      right
      simp only [sourceOf, structSource, classOf] at member
      rw [Logged.bind_events_of_silent fun _ => rfl,
        Logged.bind_events_of_silent fun _ => rfl] at member
      exact warned member

end Scope

/-- Lists of modules in which a module's lookups lead to the same render the module to the same,
    with the same events, or the same failure. -/
theorem renderModule_congr {modules others : List Module} {config : Config} {module : Module}
    (same : ∀ ref ∈ (Scope.ofModule modules config module).moduleLookups module,
      (Scope.ofModule others config module).resolve ref =
        (Scope.ofModule modules config module).resolve ref) :
    renderModule others config module = renderModule modules config module :=
  Logged.forEach_congr fun _ member => Scope.renderDeclaration_of_agree member ⟨rfl, same⟩

end WireSchema
