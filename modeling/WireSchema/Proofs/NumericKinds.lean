import WireSchema.Proofs.Correspondence

/-! # Kinds of numbers

Two kinds of 32-bit integers are generated alike, and so are five kinds of 64-bit numbers.  Where
fields of a list of modules take other kinds of the same width, the files stay as they are.

* `Field.Recast`, `Recasts` — fields and lists of modules with interchanged kinds.
* `FieldError.SameButKind` — errors that name interchangeable kinds.
* `structClass_recast` — the class of a struct does not show the kinds of its fields.
* `renderModule_recast` — a module is rendered to the same files, or fails on the same field.
-/

namespace WireSchema

open Output (BoundField ClassDecl structClass decodeMethod encodeMethod)

/-! ## Interchanged kinds -/

/-- The field with another one of the interchangeable kinds. -/
inductive Field.Recast (field : Field) : Field → Prop where
  | as {kind : Kind} : field.kind.Interchangeable kind → Recast field { field with kind := kind }

def StructDecl.Recast (struct struct' : StructDecl) : Prop :=
  List.Forall₂ Field.Recast struct.fields struct'.fields

/-- Two lists of modules that differ in the kinds of fields alone, and there only by kinds that are
    interchangeable. -/
def Recasts (modules modules' : List Module) : Prop :=
  List.Forall₂ (Module.Matches StructDecl.Recast) modules modules'

/-- Errors that differ at most in the kind that they name, by one that is interchangeable. -/
inductive FieldError.SameButKind : FieldError → FieldError → Prop where
  | same {e : FieldError} : SameButKind e e
  | invalidFixedPoint {field : String} {kind kind' : Kind} : kind.Interchangeable kind' →
      SameButKind (.invalidFixedPoint field kind) (.invalidFixedPoint field kind')

theorem Field.Recast.alikeAsKey {field field' : Field} (recast : field.Recast field') :
    field.AlikeAsKey field' := by
  cases recast with
  | as alike => exact ⟨rfl, alike, rfl, rfl, rfl⟩

/-! ## Fields -/

open Logged (EndsAlike Alike)

theorem Field.Recast.checkScale {field field' : Field} (recast : field.Recast field') :
    EndsAlike FieldError.SameButKind (fun _ _ => True) field.checkScale field'.checkScale := by
  cases recast with
  | as alike =>
    unfold Field.checkScale
    dsimp only
    cases field.fixedPoint with
    | none => exact .ok trivial
    | some fixed =>
      simp only [alike.isNumeric_eq]
      split
      · exact .error (.invalidFixedPoint alike)
      · split
        · exact .ok trivial
        · exact .error .same

/-- Fields with interchanged kinds, and with one binding. -/
structure Output.BoundField.Recast (bound bound' : BoundField) : Prop where
  field : bound.field.Recast bound'.field
  binding : bound'.binding = bound.binding

/-- What does not show the kind of a field does not tell fields with interchanged kinds apart. -/
theorem map_eq_of_recast {γ : Type} {part : BoundField → γ}
    {fields fields' : List BoundField} (recast : List.Forall₂ BoundField.Recast fields fields')
    (hidden : ∀ field kind binding,
      part ⟨{ field with kind := kind }, binding⟩ = part ⟨field, binding⟩) :
    fields'.map part = fields.map part := by
  apply map_eq_of_forall₂ recast
  rintro ⟨field, _⟩ ⟨field', binding⟩ ⟨recast, rfl⟩
  dsimp only at recast ⊢
  cases recast with
  | as alike => exact hidden field _ binding

theorem structClass_recast {name : String} {fields fields' : List BoundField}
    (recast : List.Forall₂ BoundField.Recast fields fields') :
    structClass name fields' = structClass name fields := by
  have members : fields'.map BoundField.member = fields.map BoundField.member :=
    map_eq_of_recast recast fun _ _ _ => rfl
  have accessors : fields'.map BoundField.accessors = fields.map BoundField.accessors :=
    map_eq_of_recast recast fun _ _ _ => rfl
  have readCases : fields'.map BoundField.readCase = fields.map BoundField.readCase :=
    map_eq_of_recast recast fun _ _ _ => rfl
  have writeCases : fields'.map BoundField.writeCase = fields.map BoundField.writeCase :=
    map_eq_of_recast recast fun _ _ _ => rfl
  simp only [structClass, decodeMethod, encodeMethod, List.flatMap_def, members, accessors,
    readCases, writeCases]

variable {modules modules' : List Module} {config : Config} {module module' : Module}

section

variable (recasts : Recasts modules modules')
  (home : module.Matches StructDecl.Recast module')

include recasts home

theorem bind_of_recast {viewpoint : String} {field field' : Field}
    (recast : field.Recast field') :
    (Scope.ofModule modules' config module').bind viewpoint field' =
      (Scope.ofModule modules config module).bind viewpoint field := by
  cases recast with
  | as alike =>
    -- the kind is taken back first, so that one field is left, seen from two scopes
    rw [Scope.bind_recast alike]
    apply Scope.bind_of_seesAlike
    apply Scope.seesAlike_of_matches recasts home
    intro ref key _
    apply option_rel_imp _ (Scope.struct?_of_matches recasts home ref)
    intro struct struct' fields
    apply option_rel_imp fun _ _ => Field.Recast.alikeAsKey
    apply find?_rel fields
    intro _ _ recast
    rw [recast.alikeAsKey.name]

theorem bindField_recast {viewpoint : String} {field field' : Field}
    (recast : field.Recast field') :
    Alike FieldError.SameButKind BoundField.Recast
      ((Scope.ofModule modules config module).bindField viewpoint field)
      ((Scope.ofModule modules' config module').bindField viewpoint field') := by
  have checked : Alike FieldError.SameButKind (fun _ _ => True) (.ofExcept field.checkScale)
      (.ofExcept field'.checkScale) := ⟨rfl, recast.checkScale⟩
  unfold Scope.bindField
  apply checked.bind
  intro _ _ _
  rw [bind_of_recast recasts home recast]
  apply (Alike.refl (fun _ => .same) _).bind
  rintro binding _ rfl
  exact .pure ⟨recast, rfl⟩

/-- A struct has the same class, or a field of it fails with the same error but for a kind. -/
theorem classOf_recast {viewpoint : String} {struct struct' : StructDecl}
    (name : struct'.name = struct.name) (fields : struct.Recast struct') :
    Alike FieldError.SameButKind Eq
      ((Scope.ofModule modules config module).classOf viewpoint struct)
      ((Scope.ofModule modules' config module').classOf viewpoint struct') := by
  unfold Scope.classOf
  apply (Alike.forEach fields fun _ _ => bindField_recast recasts home).bind
  intro bounds bounds' recast
  rw [name, structClass_recast recast]
  exact .pure rfl

theorem renderDeclaration_recast {banner : String} {declaration declaration' : Declaration}
    (matching : declaration.Matches StructDecl.Recast declaration') :
    Alike FieldError.SameButKind Eq
      ((Scope.ofModule modules config module).renderDeclaration banner module declaration)
      ((Scope.ofModule modules' config module').renderDeclaration banner module' declaration') := by
  have placed : (Scope.ofModule modules' config module').placementOf module' declaration' =
      (Scope.ofModule modules config module).placementOf module declaration :=
    Scope.placementOf_of_matches home matching rfl
  unfold Scope.renderDeclaration
  rw [placed, matching.name]
  generalize (Scope.ofModule modules config module).placementOf module declaration = placement
  have opening : declaration'.renderingEvent placement = declaration.renderingEvent placement := by
    cases matching with
    | struct decl => simp only [Declaration.renderingEvent, decl.name]
    | enum => rfl
  have source : Alike FieldError.SameButKind Eq
      ((Scope.ofModule modules config module).sourceOf banner placement declaration)
      ((Scope.ofModule modules' config module').sourceOf banner placement declaration') := by
    cases matching with
    | struct decl =>
      apply (classOf_recast recasts home decl.name decl.content).bind
      rintro generated _ rfl
      exact .pure rfl
    | enum => exact .pure rfl
  dsimp only
  rw [opening]
  apply (Alike.refl (fun _ => .same) _).bind
  intro _ _ _
  apply source.bind
  rintro contents _ rfl
  exact .pure rfl

/-- Where one module fails, the other one does. -/
theorem failsOn_recast {place position : Nat} {e : FieldError}
    (fails : FailsOn modules config module place position e) :
    ∃ e', FailsOn modules' config module' place position e' ∧ e.SameButKind e' := by
  obtain ⟨stops, struct, there, field⟩ := fails
  obtain ⟨e', stops', _⟩ := stops.alike home.declarations fun _ _ matching =>
    renderDeclaration_recast recasts home matching
  obtain ⟨declaration', there', matching⟩ :=
    exists_getElem?_of_forall₂ home.declarations.flip there
  have placed : (Scope.ofModule modules' config module').placementOf module' declaration' =
      (Scope.ofModule modules config module).placementOf module (.struct struct) :=
    Scope.placementOf_of_matches home matching rfl
  cases matching with
  | @struct _ struct' decl =>
    obtain ⟨other, field', related⟩ := field.alike decl.content fun _ _ =>
      bindField_recast recasts home
    rw [← placed] at field'
    -- the declaration fails with the error of its field
    obtain ⟨_, here, fails⟩ := stops'.fails
    cases here.symm.trans there'
    have same : ((Scope.ofModule modules' config module').renderDeclaration config.banner module'
        (.struct struct')).outcome = .error other :=
      renderDeclaration_outcome_error.mpr ⟨struct', position, rfl, field'⟩
    cases fails.symm.trans same
    exact ⟨e', ⟨stops', struct', there', field'⟩, related⟩

end

/-- Where fields of any structs take interchangeable kinds, every module is rendered to the same
    files with the same events, or fails on the same field of the same declaration, with the same
    error but for the kind that it may name. -/
theorem renderModule_recast (recasts : Recasts modules modules') (config : Config) {index : Nat}
    (there : modules[index]? = some module) :
    ∃ module', modules'[index]? = some module' ∧
      (renderModule modules' config module').events =
        (renderModule modules config module).events ∧
      ((∃ files, (renderModule modules config module).outcome = .ok files ∧
          (renderModule modules' config module').outcome = .ok files) ∨
        ∃ place position e e', (renderModule modules config module).outcome = .error e ∧
          FailsOn modules config module place position e ∧
          (renderModule modules' config module').outcome = .error e' ∧
          FailsOn modules' config module' place position e' ∧ e.SameButKind e') := by
  obtain ⟨module', there', home⟩ := exists_getElem?_of_forall₂ recasts.flip there
  refine ⟨module', there', ?_⟩
  have alike : Alike FieldError.SameButKind (List.Forall₂ Eq)
      (renderModule modules config module) (renderModule modules' config module') :=
    .forEach home.declarations fun _ _ => renderDeclaration_recast recasts home
  refine ⟨alike.events, ?_⟩
  rcases ended : (renderModule modules config module).outcome with e | files
  · right
    obtain ⟨place, position, fails⟩ := renderModule_outcome_error.mp ended
    obtain ⟨e', fails', related⟩ := failsOn_recast recasts home fails
    have ended' : (renderModule modules' config module').outcome = .error e' :=
      renderModule_outcome_error.mpr ⟨place, position, fails'⟩
    exact ⟨place, position, e, e', rfl, fails, ended', fails', related⟩
  · left
    have ends := alike.outcome
    rw [ended] at ends
    generalize ended' : (renderModule modules' config module').outcome = outcome at ends ⊢
    cases ends with
    | ok same =>
      rw [List.forall₂_eq_eq_eq] at same
      subst same
      exact ⟨files, rfl, rfl⟩

namespace Sample

/-- A shelf of crates by number, with a kind for the numbers. -/
def shelf (number : Kind) : Module :=
  ⟨"shelf.sp", "shelf",
    [⟨"Shelf", [(Field.structRef "crates" 1 "Crate").keyedBy "number"], .blank⟩,
      ⟨"Crate", [.scalar "number" 1 number], .blank⟩], []⟩

/-- A list of sums with a scale, which only single numbers may have. -/
def ledger (sum : Kind) : Module :=
  ⟨"ledger.sp", "ledger", [⟨"Ledger", [((Field.scalar "sums" 1 sum).asRepeated).scaledBy 0.01],
    .blank⟩], []⟩

theorem recasts_shelf_ledger :
    Recasts [shelf .integer, ledger .uint32] [shelf .int32, ledger .float64] := by
  have same (field : Field) : field.Recast field := .as .same
  have number : (Field.scalar "number" 1 .integer).Recast (.scalar "number" 1 .int32) :=
    .as (.narrow (by decide) (by decide))
  have sums : (((Field.scalar "sums" 1 .uint32).asRepeated).scaledBy 0.01).Recast
      (((Field.scalar "sums" 1 .float64).asRepeated).scaledBy 0.01) :=
    .as (.wide (by decide) (by decide))
  apply List.Forall₂.cons
  · exact ⟨rfl, rfl, .cons ⟨rfl, rfl, .cons (same _) .nil⟩
      (.cons ⟨rfl, rfl, .cons number .nil⟩ .nil), rfl⟩
  · exact .cons ⟨rfl, rfl, .cons ⟨rfl, rfl, .cons sums .nil⟩ .nil, rfl⟩ .nil

end Sample

open Sample in
/-- The shelf is rendered to the same files, and the ledger fails on its sums. -/
theorem renderModule_recast_shelf :
    Recasts [shelf .integer, ledger .uint32] [shelf .int32, ledger .float64] ∧
      (∃ files,
        (renderModule [shelf .integer, ledger .uint32] .default (shelf .integer)).outcome =
          .ok files ∧
        (renderModule [shelf .int32, ledger .float64] .default (shelf .int32)).outcome =
          .ok files) ∧
      (renderModule [shelf .integer, ledger .uint32] .default (ledger .uint32)).outcome =
        .error (.invalidFixedPoint "sums" .uint32) ∧
      ∃ place position e',
        FailsOn [shelf .integer, ledger .uint32] .default (ledger .uint32) place position
          (.invalidFixedPoint "sums" .uint32) ∧
        FailsOn [shelf .int32, ledger .float64] .default (ledger .float64) place position e' ∧
        FieldError.SameButKind (.invalidFixedPoint "sums" .uint32) e' := by
  have rendered : ∃ files,
      (renderModule [shelf .integer, ledger .uint32] .default (shelf .integer)).outcome =
        .ok files := ⟨_, rfl⟩
  have refused : (renderModule [shelf .integer, ledger .uint32] .default
      (ledger .uint32)).outcome = .error (.invalidFixedPoint "sums" .uint32) := rfl
  refine ⟨recasts_shelf_ledger, ?_, refused, ?_⟩
  · obtain ⟨files, rendered⟩ := rendered
    have first : [shelf .integer, ledger .uint32][0]? = some (shelf .integer) := rfl
    obtain ⟨_, there, _, ends⟩ := renderModule_recast recasts_shelf_ledger .default first
    cases there
    rcases ends with both | ⟨_, _, _, _, failed, _⟩
    · exact both
    · cases rendered.symm.trans failed
  · have second : [shelf .integer, ledger .uint32][1]? = some (ledger .uint32) := rfl
    obtain ⟨_, there, _, ends⟩ := renderModule_recast recasts_shelf_ledger .default second
    cases there
    rcases ends with ⟨_, succeeded, _⟩ | ⟨place, position, _, e', failed, fails, _, fails', same⟩
    · cases refused.symm.trans succeeded
    · cases refused.symm.trans failed
      exact ⟨place, position, e', fails, fails', same⟩

end WireSchema
