import WireSchema.Proofs.Denotation
import WireSchema.Proofs.Lookups
import WireSchema.Proofs.ClassNames

/-! # Warnings about bare names

A reference that leads nowhere is written with its bare name, and the log says so.  What the log has
to say is read off the modules here: which references stand in the fields, and which names are
declared.

* `LooksUp` — the references of a field, with that of the key where the field is a map.
* `Undeclared`, `fallbackLine` — a reference that leads nowhere, and the line about it.
* `lookups_of_binds` — a bound field looks up these references, and no others.
* `render_warnings` — what a rendering warns of, as the lookups that fail.
* `fallbacks_announced` — the warnings of a rendering are the lines about the references of its
  fields that lead nowhere, in the order of the fields.
-/

namespace WireSchema

/-! ## References of fields -/

/-- The references of a field that are written in its class: none for a field of a basic kind, the
    field's own one otherwise, and for a map then that of the field that keys it. -/
inductive LooksUp (modules : List Module) (module : Module) (field : Field) :
    List TypeRef → Prop where
  | basic : ¬ field.kind.isReference → LooksUp modules module field []
  | own {ref : TypeRef} : field.kind.isReference → field.target = some ref →
      (∀ name, ¬ field.IsMap ref name) → LooksUp modules module field [ref]
  | keyed {ref : TypeRef} {name : String} {home : Module} {struct : StructDecl} {key : Field} :
      field.IsMap ref name → Denotes modules (some module.name) ref ⟨home, .struct struct⟩ →
      struct.field? name = some key →
      LooksUp modules module field (ref :: key.reference?.toList)

/-- No module declares the name of the reference. -/
def Undeclared (modules : List Module) (ref : TypeRef) : Prop :=
  ∀ module ∈ modules, ∀ declaration ∈ module.declarations, declaration.name ≠ ref.name

instance (modules : List Module) (ref : TypeRef) : Decidable (Undeclared modules ref) :=
  inferInstanceAs (Decidable
    (∀ module ∈ modules, ∀ declaration ∈ module.declarations, declaration.name ≠ ref.name))

/-- The line of the log about a reference that is written with its bare name. -/
def fallbackLine (ref : TypeRef) : String :=
  "WARN type '" ++ ref.name ++ "' is not declared in any module, using the bare name"

variable {modules : List Module} {config : Config} {module : Module} {field : Field}

theorem Field.IsMap.isReference {ref : TypeRef} {name : String} (isMap : field.IsMap ref name) :
    field.kind.isReference :=
  Kind.isReference_iff.mpr (.inr isMap.kind)

namespace LooksUp

theorem unique {refs refs' : List TypeRef} (looksUp : LooksUp modules module field refs)
    (looksUp' : LooksUp modules module field refs') : refs = refs' := by
  cases looksUp with
  | basic basic =>
    cases looksUp' with
    | basic => rfl
    | own reference => exact absurd reference basic
    | keyed isMap => exact absurd isMap.isReference basic
  | own reference target single =>
    cases looksUp' with
    | basic basic => exact absurd reference basic
    | own _ target' => rw [Option.some.inj (target.symm.trans target')]
    | keyed isMap =>
      cases target.symm.trans isMap.target
      exact absurd isMap (single _)
  | keyed isMap denotes keyed =>
    cases looksUp' with
    | basic basic => exact absurd isMap.isReference basic
    | own _ target single =>
      cases target.symm.trans isMap.target
      exact absurd isMap (single _)
    | keyed isMap' denotes' keyed' =>
      cases isMap.target.symm.trans isMap'.target
      cases isMap.mapKey.symm.trans isMap'.mapKey
      -- the reference denotes one struct, and the name of the key one field of it
      have leads := Registry.resolve_eq_some_iff.mpr denotes
      cases leads.symm.trans (Registry.resolve_eq_some_iff.mpr denotes')
      cases keyed.symm.trans keyed'
      rfl

theorem unique_all {fields : List Field} {refs refs' : List (List TypeRef)}
    (looksUp : List.Forall₂ (LooksUp modules module) fields refs)
    (looksUp' : List.Forall₂ (LooksUp modules module) fields refs') : refs = refs' := by
  induction looksUp generalizing refs' with
  | nil =>
    cases looksUp'
    rfl
  | cons head _ inductionHypothesis =>
    cases looksUp' with
    | cons head' tail' => rw [head.unique head', inductionHypothesis tail']

end LooksUp

/-- A bound field looks up its references, and no others. -/
theorem lookups_of_binds {viewpoint : String} {binding : Output.Binding}
    (binds : (Scope.ofModule modules config module).Binds viewpoint field binding) :
    LooksUp modules module field ((Scope.ofModule modules config module).lookups field) := by
  unfold Scope.lookups
  cases reference : field.kind.isReference with
  | false =>
    have unkeyed : (Scope.ofModule modules config module).keyField? field = none :=
      if_neg fun collection => by simp [collection.1, Kind.isReference] at reference
    simp only [Field.reference?, reference, unkeyed]
    exact .basic (by simp [reference])
  | true =>
    obtain ⟨ref, target, _⟩ := binds.namesClass reference
    have own : field.reference? = some ref :=
      Field.reference?_eq_some_iff.mpr ⟨reference, target⟩
    rw [own]
    cases found : (Scope.ofModule modules config module).keyField? field with
    | none =>
      refine .own reference target fun name isMap => ?_
      -- a bound map has a key, and here is none
      obtain ⟨key, mapKey⟩ := binds.exists_mapKey isMap.kind isMap.repeated isMap.mapKey
      rw [Scope.keyField?_eq_some_iff.mpr mapKey] at found
      cases found
    | some key =>
      have mapKey := Scope.keyField?_eq_some_iff.mp found
      obtain ⟨ref', home, struct, target', leads, _, keyed, _⟩ := mapKey.keyOfStruct
      cases target.symm.trans target'
      obtain ⟨name, named, keyed⟩ := Option.bind_eq_some_iff.mp keyed
      exact .keyed ⟨mapKey.kind, mapKey.repeated, target, named⟩
        (Registry.resolve_eq_some_iff.mp leads) keyed

/-! ## Events -/

theorem warning?_eq (ref : TypeRef) :
    (Scope.ofModule modules config module).warning? ref =
      if Undeclared modules ref then some (.undeclared ref.name) else none := by
  have nowhere : (Scope.ofModule modules config module).resolve ref = none ↔
      Undeclared modules ref := Registry.resolve_eq_none_iff
  unfold Scope.warning?
  cases leads : (Scope.ofModule modules config module).resolve ref with
  | none => rw [if_pos (nowhere.mp leads)]
  | some declared => rw [if_neg (by simp [← nowhere, leads])]

/-- The references of a list that lead nowhere are warned of, in their order. -/
theorem warnings_eq (refs : List TypeRef) :
    (refs.filterMap (Scope.ofModule modules config module).warning?).map Event.line =
      (refs.filter (Undeclared modules ·)).map fallbackLine := by
  induction refs with
  | nil => rfl
  | cons ref refs inductionHypothesis =>
    by_cases nowhere : Undeclared modules ref
    · rw [List.filterMap_cons_some ((warning?_eq ref).trans (if_pos nowhere)),
        List.filter_cons_of_pos (by simpa using nowhere), List.map_cons, List.map_cons,
        inductionHypothesis]
      rfl
    · rw [List.filterMap_cons_none ((warning?_eq ref).trans (if_neg nowhere)),
        List.filter_cons_of_neg (by simpa using nowhere), inductionHypothesis]

namespace Scope

variable {scope : Scope} {viewpoint banner : String}

theorem classOf_events {struct : StructDecl} {decl : Output.ClassDecl}
    (generated : (scope.classOf viewpoint struct).outcome = .ok decl) :
    (scope.classOf viewpoint struct).events =
      (struct.fields.flatMap scope.lookups).filterMap scope.warning? := by
  unfold classOf at generated ⊢
  obtain ⟨fields, bound, _⟩ := Logged.bind_outcome_ok.mp generated
  rw [Logged.bind_events_of_silent fun _ => rfl, Logged.forEach_events_of_ok bound,
    List.filterMap_flatMap]
  refine List.flatMap_congr fun field member => ?_
  obtain ⟨_, _, bound⟩ := Logged.exists_of_forEach bound member
  obtain ⟨_, checked, _⟩ := Logged.bind_outcome_ok.mp bound
  -- the scale is checked in silence, so the events are those of the binding
  rw [bindField, Logged.bind_events_of_ok checked, Logged.bind_events_of_silent fun _ => rfl,
    bind_events]
  rfl

/-- The references that are looked up for a declaration. -/
def declarationLookups (scope : Scope) : Declaration → List TypeRef
  | .struct decl => decl.fields.flatMap scope.lookups
  | .enum _ => []

theorem renderDeclaration_events {declaration : Declaration} {file : RenderedFile}
    (rendered : (scope.renderDeclaration banner module declaration).outcome = .ok file) :
    (scope.renderDeclaration banner module declaration).events =
      declaration.renderingEvent (scope.placementOf module declaration) ::
        (scope.declarationLookups declaration).filterMap scope.warning? := by
  unfold renderDeclaration at rendered ⊢
  obtain ⟨_, _, rendered⟩ := Logged.bind_outcome_ok.mp rendered
  obtain ⟨contents, sourced, _⟩ := Logged.bind_outcome_ok.mp rendered
  rw [Logged.bind_events_of_ok (Logged.outcome_report _), Logged.bind_events_of_silent fun _ => rfl]
  change _ :: _ = _
  congr 1
  cases declaration with
  | enum decl => rfl
  | struct decl =>
    simp only [sourceOf, structSource] at sourced ⊢
    obtain ⟨_, generated, _⟩ := Logged.bind_outcome_ok.mp sourced
    rw [Logged.bind_events_of_silent fun _ => rfl, classOf_events generated]
    rfl

theorem flatMap_declarationLookups :
    module.declarations.flatMap scope.declarationLookups =
      (module.structs.flatMap (·.fields)).flatMap scope.lookups := by
  unfold Module.declarations
  rw [List.flatMap_append, List.flatMap_map, List.flatMap_map, List.flatMap_assoc]
  simp [declarationLookups]

end Scope

theorem level_of_warning? {scope : Scope} {ref : TypeRef} {event : Event}
    (warns : scope.warning? ref = some event) : event.level = .warn := by
  unfold Scope.warning? at warns
  split at warns
  · cases warns
    rfl
  · cases warns

theorem filter_warnings {scope : Scope} (declaration : Declaration) (placement : String)
    (refs : List TypeRef) :
    (declaration.renderingEvent placement :: refs.filterMap scope.warning?).filter
      (·.level = .warn) = refs.filterMap scope.warning? := by
  have opening : (declaration.renderingEvent placement).level = .debug := by
    cases declaration <;> rfl
  rw [List.filter_cons_of_neg (by simp [opening]), List.filter_eq_self]
  intro event member
  obtain ⟨ref, _, warns⟩ := List.mem_filterMap.mp member
  exact decide_eq_true (level_of_warning? warns)

/-- A module that is rendered warns of the lookups of its fields that fail. -/
theorem render_warnings {files : List RenderedFile}
    (rendered : (renderModule modules config module).outcome = .ok files) :
    (renderModule modules config module).events.filter (·.level = .warn) =
      ((module.structs.flatMap (·.fields)).flatMap
        (Scope.ofModule modules config module).lookups).filterMap
          (Scope.ofModule modules config module).warning? := by
  have walked := rendered
  rw [renderModule, Scope.render, Logged.forEach_events_of_ok walked, List.filter_flatMap,
    ← Scope.flatMap_declarationLookups, List.filterMap_flatMap]
  refine List.flatMap_congr fun declaration member => ?_
  obtain ⟨file, _, renders⟩ := exists_file_of_render rendered member
  have events := Scope.renderDeclaration_events renders
  exact (congrArg _ events).trans (filter_warnings _ _ _)

/-! ## The log -/

/-- The warnings of a module that is rendered are the lines about the references of its fields that
    no module declares, struct by struct and field by field, with the reference of a map before that
    of its key.  The fields have such references, and they are unique. -/
theorem fallbacks_announced {files : List RenderedFile}
    (rendered : (renderModule modules config module).outcome = .ok files) :
    (∃ refs, List.Forall₂ (LooksUp modules module) (module.structs.flatMap (·.fields)) refs) ∧
    ∀ refs, List.Forall₂ (LooksUp modules module) (module.structs.flatMap (·.fields)) refs →
      ((renderModule modules config module).events.filter (·.level = .warn)).map Event.line =
        (refs.flatten.filter (Undeclared modules ·)).map fallbackLine := by
  have looksUp : List.Forall₂ (LooksUp modules module) (module.structs.flatMap (·.fields))
      ((module.structs.flatMap (·.fields)).map
        (Scope.ofModule modules config module).lookups) := by
    rw [List.forall₂_map_right_iff, List.forall₂_same]
    intro field member
    obtain ⟨struct, declares, member⟩ := List.mem_flatMap.mp member
    obtain ⟨_, _, _, _, binds, _⟩ := exists_getter_of_render rendered
      (List.mem_append_left _ (List.mem_map_of_mem declares)) member
    exact lookups_of_binds binds
  refine ⟨⟨_, looksUp⟩, fun refs given => ?_⟩
  rw [LooksUp.unique_all given looksUp, ← List.flatMap_def, render_warnings rendered, warnings_eq]

namespace Sample

def ghost : Field := .structRef "ghost" 1 "Ghost"

def gems : Field := (Field.structRef "gems" 2 "Gem").keyedBy "hue"

def pouch : Module := ⟨"pouch.sp", "pouch", [⟨"Pouch", [ghost, gems], .blank⟩], []⟩

def gem : Module := ⟨"gem.sp", "gem", [⟨"Gem", [.enumRef "hue" 1 "Hue"], .blank⟩], []⟩

end Sample

open Sample in
/-- A pouch of gems by their hues, and a ghost in it: neither ghosts nor hues are declared. -/
theorem fallbacks_announced_pouch :
    ((renderModule [pouch, gem] .default pouch).events.filter (·.level = .warn)).map Event.line =
      ["WARN type 'Ghost' is not declared in any module, using the bare name",
       "WARN type 'Hue' is not declared in any module, using the bare name"] := by
  obtain ⟨files, rendered⟩ :
      ∃ files, (renderModule [pouch, gem] .default pouch).outcome = .ok files := ⟨_, rfl⟩
  have denotes : Denotes [pouch, gem] (some "pouch.sp") ⟨"Gem", none⟩
      ⟨gem, .struct ⟨"Gem", [.enumRef "hue" 1 "Hue"], .blank⟩⟩ :=
    Registry.resolve_eq_some_iff.mp (by decide)
  have key : (⟨"Gem", [.enumRef "hue" 1 "Hue"], .blank⟩ : StructDecl).field? "hue" =
      some (.enumRef "hue" 1 "Hue") := rfl
  have keyed : LooksUp [pouch, gem] pouch gems [⟨"Gem", none⟩, ⟨"Hue", none⟩] :=
    .keyed ⟨rfl, rfl, rfl, rfl⟩ denotes key
  have looksUp : List.Forall₂ (LooksUp [pouch, gem] pouch) [ghost, gems]
      [[⟨"Ghost", none⟩], [⟨"Gem", none⟩, ⟨"Hue", none⟩]] :=
    .cons (.own rfl rfl fun _ isMap => nomatch isMap.repeated) (.cons keyed .nil)
  rw [(fallbacks_announced rendered).2 _ looksUp]
  decide

end WireSchema
