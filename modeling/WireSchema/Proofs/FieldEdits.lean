import Mathlib.Logic.Relation
import WireSchema.Proofs.ClassNames
import WireSchema.Proofs.Correspondence

/-! # Edits of one struct

A struct is looked into from outside only for the keys of maps.  If its fields are edited, and the
keys are found as before, nothing but its own file changes.

* `FieldEdit` — two lists of modules that differ in the fields of one struct.
* `FieldEdit.IsKey` — the fields of the struct that another declaration looks for.
* `Field.Retagged`, `FieldStep` — changes of fields that leave a key as it is, but for its tag.
* `rendering_of_fieldEdit` — what is rendered for any other declaration stays as it is.
-/

namespace WireSchema

/-- What a declaration is rendered to, in a run over `modules`. -/
def Declared.rendering (declared : Declared) (modules : List Module) (config : Config) :
    Logged FieldError RenderedFile :=
  (Scope.ofModule modules config declared.home).renderDeclaration config.banner declared.home
    declared.declaration

/-! ## Keys -/

/-- Fields that differ in their tags and their scales at most. -/
structure Field.Retagged (field other : Field) : Prop where
  name : other.name = field.name
  kind : other.kind = field.kind
  repeated : other.repeated = field.repeated
  mapKey : other.mapKey = field.mapKey
  target : other.target = field.target

namespace Field.Retagged

variable {field other third : Field}

theorem refl (field : Field) : field.Retagged field :=
  ⟨rfl, rfl, rfl, rfl, rfl⟩

theorem trans (first : field.Retagged other) (second : other.Retagged third) :
    field.Retagged third where
  name := second.name.trans first.name
  kind := second.kind.trans first.kind
  repeated := second.repeated.trans first.repeated
  mapKey := second.mapKey.trans first.mapKey
  target := second.target.trans first.target

theorem alikeAsKey (same : field.Retagged other) : field.AlikeAsKey other where
  name := same.name
  kind := same.kind ▸ .same
  repeated := same.repeated
  mapKey := same.mapKey
  target := same.target

end Field.Retagged

/-- One change of the fields of a struct that leaves fields with the kept names in their order,
    with all but their tags and scales. -/
inductive FieldStep (kept : String → Prop) : List Field → List Field → Prop where
  | adjust {front back : List Field} {field : Field} {tag : UInt16}
      {fixedPoint : Option FixedPoint} :
      FieldStep kept (front ++ field :: back)
        (front ++ { field with tag := tag, fixedPoint := fixedPoint } :: back)
  | add {front back : List Field} {field : Field} : ¬ kept field.name →
      FieldStep kept (front ++ back) (front ++ field :: back)
  | remove {front back : List Field} {field : Field} : ¬ kept field.name →
      FieldStep kept (front ++ field :: back) (front ++ back)
  | swap {front back : List Field} {field other : Field} :
      other.name ≠ field.name ∨ ¬ kept field.name →
      FieldStep kept (front ++ field :: other :: back) (front ++ other :: field :: back)

theorem find?_insert {front back : List Field} {field : Field} {key : String}
    (apart : field.name ≠ key) :
    (front ++ field :: back).find? (·.name == key) = (front ++ back).find? (·.name == key) := by
  simp [List.find?_append, apart]

theorem FieldStep.find? {kept : String → Prop} {fields fields' : List Field} {key : String}
    (step : FieldStep kept fields fields') (keeps : kept key) :
    Option.Rel Field.Retagged (fields.find? (·.name == key)) (fields'.find? (·.name == key)) := by
  have unkept {field : Field} (other : ¬ kept field.name) : field.name ≠ key := by
    intro same
    apply other
    rwa [same]
  cases step with
  | adjust =>
    apply find?_rel
    · exact List.rel_append (List.forall₂_same.mpr fun field _ => .refl field)
        (.cons ⟨rfl, rfl, rfl, rfl, rfl⟩ (List.forall₂_same.mpr fun field _ => .refl field))
    · intro _ _ same
      rw [same.name]
  | add other =>
    rw [find?_insert (unkept other)]
    exact option_rel_refl .refl _
  | remove other =>
    rw [find?_insert (unkept other)]
    exact option_rel_refl .refl _
  | @swap front back field other apart =>
    have same : (front ++ other :: field :: back).find? (·.name == key) =
        (front ++ field :: other :: back).find? (·.name == key) := by
      by_cases here : field.name = key
      · -- the field is the key, so that the other one is not
        have elsewhere : other.name ≠ key := by
          rcases apart with apart | unkeptHere
          · rwa [← here]
          · exact absurd here (unkept unkeptHere)
        simp [List.find?_append, here, elsewhere]
      · simp [List.find?_append, List.find?_cons, here]
    rw [same]
    exact option_rel_refl .refl _

/-- Kept names lead to the same keys after any number of changes. -/
theorem find?_of_steps {kept : String → Prop} {fields fields' : List Field} {key : String}
    (steps : Relation.ReflTransGen (FieldStep kept) fields fields') (keeps : kept key) :
    Option.Rel Field.Retagged (fields.find? (·.name == key)) (fields'.find? (·.name == key)) := by
  induction steps with
  | refl => exact option_rel_refl .refl _
  | tail _ step inductionHypothesis =>
    exact option_rel_trans (fun _ _ _ => .trans) inductionHypothesis (step.find? keeps)

/-! ## Edits -/

/-- A struct in a list of modules, and other fields for it. -/
structure FieldEdit where
  front : List Module
  /-- The module of the struct, up to the struct. -/
  home : Module
  struct : StructDecl
  /-- The structs that follow in the module. -/
  after : List StructDecl
  back : List Module
  fields : List Field

theorem Declared.all_map_declaration (modules : List Module) :
    (Declared.all modules).map Declared.declaration = modules.flatMap Module.declarations := by
  simp [Declared.all, List.map_flatMap, Function.comp_def]

namespace FieldEdit

variable (edit : FieldEdit)

def edited : StructDecl := { edit.struct with fields := edit.fields }

def homeWith (struct : StructDecl) : Module :=
  { edit.home with structs := edit.home.structs ++ struct :: edit.after }

def modulesWith (struct : StructDecl) : List Module :=
  edit.front ++ edit.homeWith struct :: edit.back

/-- The modules before the edit. -/
def original : List Module := edit.modulesWith edit.struct

/-- The modules after the edit. -/
def revised : List Module := edit.modulesWith edit.edited

/-- The position of the struct among all declarations. -/
def position : Nat := (Declared.all edit.front).length + edit.home.structs.length

/-- A map of the declaration is keyed by the field of the given name of the edited struct. -/
def IsKey (config : Config) (declared : Declared) (key : String) : Prop :=
  ∃ struct field ref, declared.declaration = .struct struct ∧ field ∈ struct.fields ∧
    field.IsMap ref key ∧
    (Scope.ofModule edit.original config declared.home).struct? ref = some edit.struct ∧
    (Scope.ofModule edit.revised config declared.home).struct? ref = some edit.edited

/-- What stands at one place before and after the edit. -/
def Content (struct struct' : StructDecl) : Prop :=
  struct' = struct ∨ struct = edit.struct ∧ struct' = edit.edited

theorem matches_homeWith :
    (edit.homeWith edit.struct).Matches edit.Content (edit.homeWith edit.edited) where
  name := rfl
  defaultNamespace := rfl
  structs := by
    have unchanged (structs : List StructDecl) :
        List.Forall₂ (StructDecl.Matches edit.Content) structs structs :=
      List.forall₂_same.mpr fun _ _ => ⟨rfl, rfl, .inl rfl⟩
    exact List.rel_append (unchanged _) (.cons ⟨rfl, rfl, .inr ⟨rfl, rfl⟩⟩ (unchanged _))
  enums := rfl

theorem matches_revised :
    List.Forall₂ (Module.Matches edit.Content) edit.original edit.revised := by
  have unchanged (modules : List Module) :
      List.Forall₂ (Module.Matches edit.Content) modules modules :=
    List.forall₂_same.mpr fun _ _ =>
      ⟨rfl, rfl, List.forall₂_same.mpr fun _ _ => ⟨rfl, rfl, .inl rfl⟩, rfl⟩
  exact List.rel_append (unchanged _) (.cons edit.matches_homeWith (unchanged _))

/-! ## Positions -/

/-- The declarations before the struct. -/
def preceding : List Declaration :=
  edit.front.flatMap Module.declarations ++ edit.home.structs.map .struct

/-- The declarations that follow the struct. -/
def following : List Declaration :=
  edit.after.map .struct ++ edit.home.enums.map .enum ++ edit.back.flatMap Module.declarations

theorem all_map_declaration (struct : StructDecl) :
    (Declared.all (edit.modulesWith struct)).map Declared.declaration =
      edit.preceding ++ .struct struct :: edit.following := by
  have home : (edit.homeWith struct).declarations = edit.home.structs.map .struct ++
      .struct struct :: (edit.after.map .struct ++ edit.home.enums.map .enum) := by
    simp [homeWith, Module.declarations]
  rw [Declared.all_map_declaration, modulesWith, List.flatMap_append, List.flatMap_cons, home]
  simp [preceding, following]

theorem length_preceding : edit.preceding.length = edit.position := by
  simp [preceding, position, Declared.all, List.length_flatMap]

/-- At any other position there is one declaration before and after the edit, in modules that
    match. -/
theorem exists_revised {position : Nat} {declared : Declared}
    (there : (Declared.all edit.original)[position]? = some declared)
    (other : position ≠ edit.position) :
    ∃ declared', (Declared.all edit.revised)[position]? = some declared' ∧
      declared'.declaration = declared.declaration ∧
      declared.home.Matches edit.Content declared'.home := by
  obtain ⟨declared', there', pair⟩ :=
    exists_getElem?_of_forall₂ (Declared.all_rel edit.matches_revised).flip there
  refine ⟨declared', there', ?_, pair.home⟩
  -- the declarations are those of one list, up to the position of the struct
  have before := congrArg (Option.map Declared.declaration) there
  have after := congrArg (Option.map Declared.declaration) there'
  rw [← List.getElem?_map, original, all_map_declaration] at before
  rw [← List.getElem?_map, revised, all_map_declaration] at after
  rw [← edit.length_preceding] at other
  have same : (edit.preceding ++ .struct edit.edited :: edit.following)[position]? =
      (edit.preceding ++ .struct edit.struct :: edit.following)[position]? := by
    grind
  rw [after, before] at same
  simpa using same

/-! ## Renderings -/

/-- A map finds its key as before, if the names that it may ask the edited struct for lead to keys
    as before. -/
theorem sameKey_of_keys {config : Config} {declared : Declared} {struct : StructDecl}
    {field : Field} {ref : TypeRef} {key : String} {module' : Module}
    (home : declared.home.Matches edit.Content module')
    (declares : declared.declaration = .struct struct) (member : field ∈ struct.fields)
    (isMap : field.IsMap ref key)
    (keys : ∀ key, edit.IsKey config declared key →
      Option.Rel Field.Retagged (edit.struct.field? key) (edit.edited.field? key)) :
    (Scope.ofModule edit.original config declared.home).SameKey
      (Scope.ofModule edit.revised config module') ref key := by
  have structs : Option.Rel edit.Content
      ((Scope.ofModule edit.original config declared.home).struct? ref)
      ((Scope.ofModule edit.revised config module').struct? ref) :=
    Scope.struct?_of_matches edit.matches_revised home ref
  have owner : (Scope.ofModule edit.revised config module').struct? ref =
      (Scope.ofModule edit.revised config declared.home).struct? ref := by
    simp only [Scope.ofModule, Scope.within, home.name]
  have asked (before : (Scope.ofModule edit.original config declared.home).struct? ref =
        some edit.struct)
      (after : (Scope.ofModule edit.revised config module').struct? ref = some edit.edited) :
      Option.Rel Field.AlikeAsKey (edit.struct.field? key) (edit.edited.field? key) := by
    rw [owner] at after
    exact option_rel_imp (fun _ _ same => same.alikeAsKey)
      (keys key ⟨struct, field, ref, declares, member, isMap, before, after⟩)
  unfold Scope.SameKey
  generalize (Scope.ofModule edit.original config declared.home).struct? ref = before
    at structs asked ⊢
  generalize (Scope.ofModule edit.revised config module').struct? ref = after at structs asked ⊢
  -- both lists have one struct there that was not edited, or the edited one before and after
  cases structs with
  | none => exact .none
  | some content =>
    rcases content with rfl | ⟨rfl, rfl⟩
    · exact .some (option_rel_refl Field.AlikeAsKey.refl _)
    · exact .some (asked rfl rfl)

theorem rendering_of_keys {config : Config} {declared declared' : Declared}
    (home : declared.home.Matches edit.Content declared'.home)
    (same : declared'.declaration = declared.declaration)
    (keys : ∀ key, edit.IsKey config declared key →
      Option.Rel Field.Retagged (edit.struct.field? key) (edit.edited.field? key)) :
    declared'.rendering edit.revised config = declared.rendering edit.original config := by
  unfold Declared.rendering
  rw [same]
  apply Scope.renderDeclaration_congr
  · simp only [Scope.placementOf, home.defaultNamespace]
    rfl
  · intro struct declares field member
    apply Scope.bind_of_seesAlike
    apply Scope.seesAlike_of_matches edit.matches_revised home
    intro ref key isMap
    exact edit.sameKey_of_keys home declares member isMap keys

end FieldEdit

/-- Other fields for one struct leave everything that is rendered for another declaration as it
    is, events and failures included, if each name that keys one of its maps of the struct leads to
    no field of the struct before and after, or to fields that differ in tag and scale alone.  It
    does after any number of changes that tag and scale fields anew, and that add, remove and move
    fields other than the keys. -/
theorem rendering_of_fieldEdit (edit : FieldEdit) (config : Config) {position : Nat}
    {declared : Declared} (there : (Declared.all edit.original)[position]? = some declared)
    (other : position ≠ edit.position) :
    ∃ declared', (Declared.all edit.revised)[position]? = some declared' ∧
      declared'.declaration = declared.declaration ∧
      ((∀ key, edit.IsKey config declared key →
          Option.Rel Field.Retagged (edit.struct.field? key) (edit.edited.field? key)) →
        declared'.rendering edit.revised config = declared.rendering edit.original config) ∧
      (Relation.ReflTransGen (FieldStep (edit.IsKey config declared)) edit.struct.fields
          edit.fields →
        declared'.rendering edit.revised config = declared.rendering edit.original config) := by
  obtain ⟨declared', there', same, home⟩ := edit.exists_revised there other
  refine ⟨declared', there', same, edit.rendering_of_keys home same, ?_⟩
  intro steps
  apply edit.rendering_of_keys home same
  intro key isKey
  exact find?_of_steps steps isKey

namespace Sample

/-- The items get a weight, and their color another tag. -/
def weighItems : FieldEdit where
  front := [bag]
  home := { item with structs := [] }
  struct := ⟨"Item", [.enumRef "color" 1 "Color"], .blank⟩
  after := []
  back := []
  fields := [.scalar "weight" 1 .int64, .enumRef "color" 2 "Color"]

end Sample

open Sample in
/-- The bag has a map of items by color, and its source stays as it is. -/
theorem rendering_of_fieldEdit_bag :
    (Declared.all weighItems.original)[0]? = some ⟨bag, .struct bagStruct⟩ ∧
      0 ≠ weighItems.position ∧
      weighItems.IsKey .default ⟨bag, .struct bagStruct⟩ "color" ∧
      (∀ key, weighItems.IsKey .default ⟨bag, .struct bagStruct⟩ key →
        Option.Rel Field.Retagged (weighItems.struct.field? key) (weighItems.edited.field? key)) ∧
      Relation.ReflTransGen (FieldStep (weighItems.IsKey .default ⟨bag, .struct bagStruct⟩))
        weighItems.struct.fields weighItems.fields ∧
      (∃ file, (Declared.rendering ⟨bag, .struct bagStruct⟩ weighItems.original
        .default).outcome = .ok file) ∧
      Declared.rendering ⟨bag, .struct bagStruct⟩ weighItems.revised .default =
        Declared.rendering ⟨bag, .struct bagStruct⟩ weighItems.original .default := by
  have there : (Declared.all weighItems.original)[0]? = some ⟨bag, .struct bagStruct⟩ := rfl
  have other : 0 ≠ weighItems.position := by decide
  have isKey : weighItems.IsKey .default ⟨bag, .struct bagStruct⟩ "color" :=
    ⟨bagStruct, items, ⟨"Item", none⟩, rfl, List.mem_cons_self, ⟨rfl, rfl, rfl, rfl⟩, rfl, rfl⟩
  have color : ∀ key, weighItems.IsKey .default ⟨bag, .struct bagStruct⟩ key → key = "color" := by
    rintro key ⟨struct, field, ref, declares, member, isMap, _⟩
    cases declares
    cases List.mem_singleton.mp member
    exact (Option.some.inj isMap.mapKey).symm
  have keys : ∀ key, weighItems.IsKey .default ⟨bag, .struct bagStruct⟩ key →
      Option.Rel Field.Retagged (weighItems.struct.field? key)
        (weighItems.edited.field? key) := by
    intro key isKey
    rw [color key isKey]
    exact .some ⟨rfl, rfl, rfl, rfl, rfl⟩
  have steps : Relation.ReflTransGen
      (FieldStep (weighItems.IsKey .default ⟨bag, .struct bagStruct⟩))
      weighItems.struct.fields weighItems.fields := by
    apply Relation.ReflTransGen.tail (.single _)
    · refine @FieldStep.add _ [] [.enumRef "color" 2 "Color"] (.scalar "weight" 1 .int64) ?_
      exact fun isKey => absurd (color _ isKey) (by decide)
    · exact @FieldStep.adjust _ [] [] (.enumRef "color" 1 "Color") 2 none
  obtain ⟨declared', there', _, unchanged, _⟩ :=
    rendering_of_fieldEdit weighItems .default there other
  cases there'
  exact ⟨there, other, isKey, keys, steps, ⟨_, rfl⟩, unchanged keys⟩

end WireSchema
