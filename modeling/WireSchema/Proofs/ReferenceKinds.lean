import WireSchema.Proofs.BindingFailures
import WireSchema.Proofs.ClassNames
import WireSchema.Proofs.Denotation
import WireSchema.Proofs.FieldChecks
import WireSchema.Proofs.MemberTransfer

/-! # Kinds of referenced types

A reference is looked up by its name alone, among structs and enums together.  A field that refers
to an enum is generated for a file with the lookup of an enum, and one that refers to a struct for
a file with a class.  The file that it gets is the one for what the reference denotes.

* `RenderedFile.HasKind` — a file holds the type that fields of a kind are generated for, and
  `hasKind_unique` — there is one such kind at most.
* `hasKind_of_rendersTo` — a declaration is rendered to a file of its own kind.
* `bind_ne_unknownType` — a map whose reference denotes a struct has a type.
* `referenced_kind_iff` — the class that a binding names has the kind of the field exactly if what
  the reference denotes has, and so it has where no declaration of the other kind bears the name.
-/

namespace WireSchema

open Output (BoundField ClassDecl EnumClass SourceFile joinLines structClass structImports)

/-! ## Kinds of files -/

/-- The file holds a type for fields of a kind: for an enum, constants with the lookup by their
    positions, and for a struct a class, which has no constructor but the one without parameters. -/
inductive RenderedFile.HasKind (file : RenderedFile) (config : Config) : Kind → Prop where
  | enum {decl : EnumClass} : decl.name = file.typeName →
      EnumClass.lookupLines decl.name <:+: decl.lines →
      file.contents = (SourceFile.mk config.banner file.placement [] decl.lines).text →
      file.HasKind config .enum
  | struct {decl : ClassDecl} : decl.name = file.typeName → file.Spells config decl →
      file.HasKind config .struct

/-- The source of an enum is never that of a class. -/
theorem enum_text_ne_class_text {banner placement : String} (decl : EnumClass)
    (lines : List String) :
    (SourceFile.mk banner placement [] decl.lines).text ≠
      (SourceFile.mk banner placement structImports lines).text := by
  intro same
  -- behind the namespace, the one goes on with its type, and the other with its imports
  simp only [SourceFile.text, List.append_assoc, Output.joinLines_append, String.append_right_inj]
    at same
  have first := congrArg (fun text => text.toList.head?) same
  revert first
  simp [SourceFile.importLines, EnumClass.lines, structImports, joinLines]

variable {modules : List Module} {config : Config} {module : Module} {file : RenderedFile}

theorem hasKind_unique {kind kind' : Kind} (has : file.HasKind config kind)
    (has' : file.HasKind config kind') : kind = kind' := by
  cases has with
  | enum _ _ spelled =>
    cases has' with
    | enum => rfl
    | struct _ spelled' =>
      exact absurd (spelled.symm.trans spelled') (enum_text_ne_class_text _ _)
  | struct _ spelled =>
    cases has' with
    | enum _ _ spelled' =>
      exact absurd (spelled'.symm.trans spelled) (enum_text_ne_class_text _ _)
    | struct => rfl

/-- A declaration is rendered to a file of its kind. -/
theorem hasKind_of_rendersTo {declaration : Declaration}
    (rendered : RendersTo modules config module declaration file) :
    file.HasKind config declaration.kind := by
  cases declaration with
  | struct struct =>
    obtain ⟨named, _, _, generated, spelled⟩ := rendersTo_struct.mp rendered
    obtain ⟨fields, _, _, rfl⟩ := Scope.classOf_outcome_ok.mp generated
    exact .struct named.symm spelled
  | enum enum =>
    simp only [RendersTo, Scope.renderDeclaration, Scope.sourceOf, Logged.bind_outcome_ok,
      Logged.outcome_pure, Except.ok.injEq] at rendered
    obtain ⟨_, _, contents, spelled, rfl⟩ := rendered
    refine .enum (rfl : enum.toClass.name = enum.name) ?_ spelled.symm
    exact ⟨["public enum " ++ enum.name ++ " \x7b"] ++ EnumClass.constantLines enum.members ++ [""],
      ["\x7d"], rfl⟩

/-! ## References -/

/-- A map whose reference denotes a struct does not fail for want of a type. -/
theorem bind_ne_unknownType {field : Field} {ref : TypeRef} {name viewpoint typeName : String}
    {home : Module} {struct : StructDecl} (isMap : field.IsMap ref name)
    (denotes : Denotes modules (some module.name) ref ⟨home, .struct struct⟩) :
    ((Scope.ofModule modules config module).bind viewpoint field).outcome ≠
      .error (.unknownType typeName field.name) := by
  intro fails
  have leads : (Scope.ofModule modules config module).resolve ref = some ⟨home, .struct struct⟩ :=
    Registry.resolve_eq_some_iff.mpr denotes
  cases Scope.bind_outcome_error.mp fails with
  | unknownType isMap' nowhere =>
    cases isMap.target.symm.trans isMap'.target
    exact nowhere home struct leads

/-- What the name of a reference is declared as leads the reference somewhere. -/
theorem exists_denotes (module : Module) {ref : TypeRef}
    (declared : ∃ home ∈ modules, ∃ declaration ∈ home.declarations, declaration.name = ref.name) :
    ∃ declared, Denotes modules (some module.name) ref declared := by
  obtain ⟨home, listed, declaration, declares, named⟩ := declared
  cases found : (Registry.ofModules modules).resolve (some module.name) ref with
  | none => exact absurd named (Registry.resolve_eq_none_iff.mp found home listed _ declares)
  | some declared => exact ⟨declared, Registry.resolve_eq_some_iff.mp found⟩

/-- A field that refers to a name which some module declares is generated with the name of the file
    for what the reference denotes.  The file is one for fields of its kind exactly if the denoted
    declaration is, and that is certain where all declarations of the name are.  A map whose
    reference denotes a struct does not fail for want of a type. -/
theorem referenced_kind_iff {struct : StructDecl} {own : RenderedFile}
    (rendered : RendersTo modules config module (.struct struct) own) :
    (∃ fields : List BoundField, fields.map (·.field) = struct.fields ∧
      own.Spells config (structClass struct.name fields) ∧
      ∀ bound ∈ fields, ∀ ref, bound.field.kind.isReference → bound.field.target = some ref →
        (∃ home ∈ modules, ∃ declaration ∈ home.declarations, declaration.name = ref.name) →
        ∃ declared name, Denotes modules (some module.name) ref declared ∧
          bound.binding.NamesClass name ∧
          NamesFile modules config own.placement declared name ∧
          (∀ file, RendersTo modules config declared.home declared.declaration file →
            (file.HasKind config bound.field.kind ↔
              declared.declaration.kind = bound.field.kind)) ∧
          ((∀ home ∈ modules, ∀ other ∈ home.declarations, other.name = ref.name →
            other.kind = bound.field.kind) → declared.declaration.kind = bound.field.kind)) ∧
    ∀ viewpoint field ref name home decl, field.IsMap ref name →
      Denotes modules (some module.name) ref ⟨home, .struct decl⟩ → ∀ typeName,
        ((Scope.ofModule modules config module).bind viewpoint field).outcome ≠
          .error (.unknownType typeName field.name) := by
  refine ⟨?_, fun viewpoint field ref name home decl isMap denotes typeName =>
    bind_ne_unknownType isMap denotes⟩
  obtain ⟨_, _, _, generated, spelled⟩ := rendersTo_struct.mp rendered
  obtain ⟨fields, named, admitted, rfl⟩ := Scope.classOf_outcome_ok.mp generated
  refine ⟨fields, named, spelled, fun bound member ref reference target declares => ?_⟩
  obtain ⟨declared, denotes⟩ := exists_denotes module declares
  have leads : (Scope.ofModule modules config module).resolve ref = some declared :=
    Registry.resolve_eq_some_iff.mpr denotes
  obtain ⟨_, target', names⟩ := (admitted bound member).binds.namesClass reference
  cases target.symm.trans target'
  refine ⟨declared, _, denotes, names, namesFile_of_resolve leads, fun file renders => ?_, ?_⟩
  · have own := hasKind_of_rendersTo renders
    exact ⟨hasKind_unique own, fun same => same ▸ own⟩
  · intro all
    obtain ⟨member, named⟩ := Registry.resolve_sound leads
    obtain ⟨listed, declares⟩ := Declared.mem_all.mp member
    exact all _ listed _ declares named

namespace Sample

def paint : Module := ⟨"paint.sp", "paint", [.empty "Color"], []⟩

def color : Field := .enumRef "color" 1 "Color"

def rackStruct : StructDecl := ⟨"Rack", [color], .blank⟩

def rack : Module := ⟨"rack.sp", "rack", [rackStruct], []⟩

def tone : Module := ⟨"tone.sp", "tone", [], [.ofMembers "Color" ["Red"]]⟩

/-- The tones of a rack, keyed by their names. -/
def tones : Field := (Field.structRef "tones" 2 "Color").keyedBy "name"

def tint : Module := ⟨"tint.sp", "tint", [⟨"Color", [.scalar "name" 1 .string], .blank⟩], []⟩

end Sample

open Sample in
/-- A rack with a color, where the only declaration of that name is an enum. -/
theorem referenced_kind_iff_tone :
    ∃ own, RendersTo [rack, tone] .default rack (.struct rackStruct) own ∧
      ∃ declared name, NamesFile [rack, tone] .default own.placement declared name ∧
        declared.declaration.kind = .enum ∧
        ∀ file, RendersTo [rack, tone] .default declared.home declared.declaration file →
          file.HasKind .default .enum := by
  obtain ⟨own, rendered⟩ :
      ∃ own, RendersTo [rack, tone] .default rack (.struct rackStruct) own := ⟨_, rfl⟩
  obtain ⟨⟨fields, declared, _, all⟩, _⟩ := referenced_kind_iff rendered
  obtain ⟨bound, member, isColor⟩ : ∃ bound ∈ fields, bound.field = color := by
    rw [← List.mem_map, declared]
    exact List.mem_cons_self
  obtain ⟨denoted, name, _, _, names, kind_iff, same⟩ := all bound member ⟨"Color", none⟩
    (by rw [isColor]; rfl) (by rw [isColor]; rfl)
    ⟨tone, by decide, .enum (.ofMembers "Color" ["Red"]), by decide, rfl⟩
  rw [isColor] at kind_iff same
  have kind : denoted.declaration.kind = .enum := same (by decide)
  exact ⟨own, rendered, denoted, name, names, kind,
    fun file renders => (kind_iff file renders).mpr kind⟩

open Sample in
/-- An earlier struct is what a field for an enum of that name is generated with, and an earlier
    enum keeps a map of structs of that name from being generated. -/
theorem color_captured :
    (∃ files, (renderModule [paint, rack, tone] .default rack).outcome = .ok files) ∧
    .enum (.ofMembers "Color" ["Red"]) ∈ tone.declarations ∧
    (∃ binding, ((Scope.ofModule [paint, rack, tone] .default rack).bind "rack" color).outcome =
        .ok binding ∧ binding.NamesClass "paint.Color" ∧
      ∀ home ∈ [paint, rack, tone], ∀ declaration ∈ home.declarations, ∀ file,
        RendersTo [paint, rack, tone] .default home declaration file → file.placement = "paint" →
        file.typeName = "Color" → ¬ file.HasKind .default .enum) ∧
    ∃ struct, .struct struct ∈ tint.declarations ∧ struct.name = "Color" ∧
      ((Scope.ofModule [tone, rack, tint] .default rack).bind "rack" tones).outcome =
        .error (.unknownType "Color" "tones") := by
  have files : ∃ files, (renderModule [paint, rack, tone] .default rack).outcome = .ok files :=
    ⟨_, rfl⟩
  have named : (Scope.ofModule [paint, rack, tone] .default rack).nameOf "rack" ⟨"Color", none⟩ =
      "paint.Color" := by decide
  have bound : (Scope.ofModule [paint, rack, tone] .default rack).Binds "rack" color
      (.of color (.named "paint.Color") (.enumMember "paint.Color" 1) .number .ordinal) := by
    rw [← named]
    exact .constant rfl rfl rfl
  have unknown : ((Scope.ofModule [tone, rack, tint] .default rack).bind "rack" tones).outcome =
      .error (.unknownType "Color" "tones") := rfl
  refine ⟨files, List.mem_cons_self, ⟨_, Scope.bind_outcome_ok.mpr bound, ⟨rfl, rfl, ?_⟩, ?_⟩, _,
    List.mem_cons_self, rfl, unknown⟩
  · rintro _ ⟨⟩
  · intro home listed declaration declares file renders placed typed isEnum
    have kind := hasKind_unique (hasKind_of_rendersTo renders) isEnum
    have elsewhere : ∀ home ∈ [paint, rack, tone], ∀ declaration ∈ home.declarations,
        declaration.kind = .enum →
          (Scope.ofModule [paint, rack, tone] .default home).placementOf home declaration ≠
            "paint" := by decide
    exact elsewhere home listed declaration declares kind (renders.labels.2.symm.trans placed)

end WireSchema
