import WireSchema.Output.SourceFile
import WireSchema.Proofs.Bindings
import WireSchema.Proofs.Resolution

/-! # Rendered files

A run renders its modules one by one, each in the scope of the module.  This module says what a
rendered file is, so that later proofs talk of files and classes, and not of the rendering:

* `RendersTo` relates a declaration to its file, in a run over given modules.
* `render_outcome_ok` — a module is rendered to the files of its declarations, in their order.
* `rendersTo_struct` — the file of a struct spells the class of the struct.
* `renderModule_outcome_error` — a module that is not rendered fails on one of its fields.
-/

namespace WireSchema

open Output (BoundField ClassDecl JavaType SourceFile getterName structClass structImports)

/-- The scope that the declarations of `module` are rendered in, in a run over `modules`. -/
def Scope.ofModule (modules : List Module) (config : Config) (module : Module) : Scope :=
  (Scope.global modules config.namespaceTag).within module

/-- What a module of a run over `modules` is rendered to. -/
def renderModule (modules : List Module) (config : Config) (module : Module) :
    Logged FieldError (List RenderedFile) :=
  (Scope.global modules config.namespaceTag).render config.banner module

/-- A declaration of `module` is rendered to `file`, in a run over `modules`. -/
def RendersTo (modules : List Module) (config : Config) (module : Module)
    (declaration : Declaration) (file : RenderedFile) : Prop :=
  ((Scope.ofModule modules config module).renderDeclaration config.banner module
    declaration).outcome = .ok file

/-- The source of a file is the text of a class, under the banner and in the namespace of the
    file. -/
def RenderedFile.Spells (file : RenderedFile) (config : Config) (decl : ClassDecl) : Prop :=
  file.contents =
    ({ banner := config.banner, placement := file.placement, imports := structImports,
       body := decl.lines } : SourceFile).text

/-- The class in a file has a method of the given name that takes no arguments and returns a
    value of type `result`. -/
def RenderedFile.GetterReturns (file : RenderedFile) (config : Config) (getter : String)
    (result : JavaType) : Prop :=
  ∃ decl : ClassDecl, file.Spells config decl ∧
    ∃ method ∈ decl.methods, method.name = getter ∧ method.parameters = [] ∧
      method.result = some result

variable {modules : List Module} {config : Config} {module : Module}

/-- Where a declaration is placed does not depend on the module that asks. -/
theorem Scope.placementOfDeclared_ofModule (viewer : Module) (declared : Declared) :
    (Scope.ofModule modules config viewer).placementOfDeclared declared =
      (Scope.ofModule modules config declared.home).placementOf declared.home
        declared.declaration := rfl

/-! ## Files -/

/-- A file carries the name of its declaration, and the namespace that it is placed in. -/
theorem RendersTo.labels {declaration : Declaration} {file : RenderedFile}
    (rendered : RendersTo modules config module declaration file) :
    file.typeName = declaration.name ∧
      file.placement = (Scope.ofModule modules config module).placementOf module declaration := by
  simp only [RendersTo, Scope.renderDeclaration, Logged.bind_outcome_ok, Logged.outcome_pure,
    Except.ok.injEq] at rendered
  obtain ⟨_, _, contents, _, rfl⟩ := rendered
  exact ⟨rfl, rfl⟩

/-- The file of a struct spells the class of the struct. -/
theorem rendersTo_struct {struct : StructDecl} {file : RenderedFile} :
    RendersTo modules config module (.struct struct) file ↔
      file.typeName = struct.name ∧
      file.placement =
        (Scope.ofModule modules config module).placementOf module (.struct struct) ∧
      ∃ decl, ((Scope.ofModule modules config module).classOf file.placement struct).outcome =
          .ok decl ∧ file.Spells config decl := by
  simp only [RendersTo, Scope.renderDeclaration, Scope.sourceOf, Scope.structSource,
    Logged.bind_outcome_ok, Logged.outcome_pure, Logged.outcome_report, Except.ok.injEq]
  constructor
  · rintro ⟨_, _, _, ⟨decl, generated, rfl⟩, rfl⟩
    refine ⟨rfl, rfl, decl, generated, ?_⟩
    simp only [RenderedFile.Spells]
  · obtain ⟨placed, typeName, contents⟩ := file
    rintro ⟨rfl, rfl, decl, generated, spelled⟩
    exact ⟨(), trivial, contents, ⟨decl, generated, spelled.symm⟩, rfl⟩

/-! ## Modules -/

theorem exists_file_of_render {files : List RenderedFile} {declaration : Declaration}
    (rendered : (renderModule modules config module).outcome = .ok files)
    (member : declaration ∈ module.declarations) :
    ∃ file ∈ files, RendersTo modules config module declaration file :=
  Logged.exists_of_forEach rendered member

/-- The getter of a field, in the class of its struct, returns the type that the field is bound
    to. -/
theorem exists_getter_of_render {files : List RenderedFile} {struct : StructDecl} {field : Field}
    (rendered : (renderModule modules config module).outcome = .ok files)
    (declares : .struct struct ∈ module.declarations) (member : field ∈ struct.fields) :
    ∃ file ∈ files, RendersTo modules config module (.struct struct) file ∧
      ∃ binding, (Scope.ofModule modules config module).Binds file.placement field binding ∧
        file.GetterReturns config (getterName field.name) binding.type := by
  obtain ⟨file, listed, renders⟩ := exists_file_of_render rendered declares
  obtain ⟨_, _, decl, generated, spelled⟩ := rendersTo_struct.mp renders
  -- the getter is that of the bound field, and the bound fields are the declared ones
  obtain ⟨fields, declared, admitted, rfl⟩ := Scope.classOf_outcome_ok.mp generated
  rw [← declared, List.mem_map] at member
  obtain ⟨bound, member, rfl⟩ := member
  have offered : bound.getter ∈ (structClass struct.name fields).methods :=
    Output.mem_methods.mpr (.inl ⟨bound, member, BoundField.mem_accessors.mpr (.inl rfl)⟩)
  exact ⟨file, listed, renders, bound.binding, (admitted bound member).binds, _, spelled,
    bound.getter, offered, rfl, rfl, rfl⟩

/-! ## Failures -/

/-- A declaration is not rendered exactly if it is a struct with a field that is not bound. -/
theorem renderDeclaration_outcome_error {scope : Scope} {banner : String}
    {declaration : Declaration} {e : FieldError} :
    (scope.renderDeclaration banner module declaration).outcome = .error e ↔
      ∃ struct position, declaration = .struct struct ∧
        Logged.StopsAt (scope.bindField (scope.placementOf module declaration)) struct.fields
          position e := by
  simp only [Scope.renderDeclaration, Logged.bind_outcome_error, Logged.outcome_report,
    Logged.outcome_pure]
  cases declaration with
  | struct decl =>
    simp [Scope.sourceOf, Scope.structSource, Scope.classOf, Logged.bind_outcome_error,
      Logged.forEach_outcome_error]
  | enum decl => simp [Scope.sourceOf]

/-- A module fails on a field of a declaration: what stands before the declaration is rendered, the
    fields before the field are bound, and the field is not. -/
structure FailsOn (modules : List Module) (config : Config) (module : Module)
    (place position : Nat) (e : FieldError) : Prop where
  declaration : Logged.StopsAt
    ((Scope.ofModule modules config module).renderDeclaration config.banner module)
    module.declarations place e
  field : ∃ struct, module.declarations[place]? = some (.struct struct) ∧
    Logged.StopsAt ((Scope.ofModule modules config module).bindField
      ((Scope.ofModule modules config module).placementOf module (.struct struct)))
      struct.fields position e

theorem renderModule_outcome_error {e : FieldError} :
    (renderModule modules config module).outcome = .error e ↔
      ∃ place position, FailsOn modules config module place position e := by
  unfold renderModule Scope.render
  rw [Logged.forEach_outcome_error]
  constructor
  · rintro ⟨place, stops⟩
    obtain ⟨declaration, there, fails⟩ := stops.fails
    obtain ⟨struct, position, rfl, field⟩ := renderDeclaration_outcome_error.mp fails
    exact ⟨place, position, stops, struct, there, field⟩
  · rintro ⟨place, position, stops, _⟩
    exact ⟨place, stops⟩

end WireSchema
