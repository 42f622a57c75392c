import WireSchema.Proofs.Rendering

/-! # Names of classes lead to rendered files

A file names the classes of other files, and those files are placed by their own modules.  The
two agree: the name that a reference is written with is that of a file that the module of its
declaration is rendered to.

* `NamesFile` says that a name, where it is written, is the name of the file of a declaration.
* `namesFile_of_resolve` — so is every name of a reference that leads somewhere.
* `referenced_classes_rendered` — so is every class that the class of a struct mentions, and a
  getter that a map is keyed by is a method of the class it is asked of.
-/

namespace WireSchema

open Output (JavaType ReadCall Operand Binding BoundField structClass getterName)

/-! ## Places where classes are named -/

namespace Output

/-- Types that are no classes, and that type arguments replace by classes of their own. -/
def primitiveNames : List String := ["int", "long", "boolean"]

/-- The class of the objects that a member of the type holds. -/
def JavaType.elementClass? : JavaType → Option String
  | named className => some className
  | array element | list element | map _ element => element.elementClass?
  | boolean | int | long | float | text | blob => none

/-- The type argument that the keys of a map are declared with. -/
def JavaType.keyArgument? : JavaType → Option String
  | map key _ => some (box key.spelling)
  | _ => none

/-- The class that an expression makes objects or enum members of. -/
def ReadCall.className? : ReadCall → Option String
  | enumMember className _ | enumMembers className | object className | objects className
  | objectMap className _ => some className
  | flag _ | number _ | narrowNumber _ | flags | narrowNumbers | numbers | text | texts | blob =>
    none

/-- The class whose members an operand takes the positions of. -/
def Operand.className? : Operand → Option String
  | ordinals className => some className
  | itself | flag | ordinal | values => none

/-- Wherever a binding names the class of its elements, it uses the same name. -/
structure Binding.NamesClass (binding : Binding) (name : String) : Prop where
  type : binding.type.elementClass? = some name
  read : binding.read.className? = some name
  write : ∀ other, binding.write.operand.className? = some other → other = name

/-- A type argument is written as the class, unless the class has the name of a type that is
    none. -/
theorem JavaType.box_eq_self {name : String} (isClass : name ∉ primitiveNames) :
    box name = name := by
  simp only [primitiveNames, List.mem_cons, List.not_mem_nil, or_false, not_or] at isClass
  simp [box, isClass]

end Output

/-- A name is qualified unless its namespace is the one at hand, or empty. -/
theorem Scope.qualify_eq (placement name viewpoint : String) :
    Scope.qualify placement name viewpoint =
      if placement = viewpoint ∨ placement = "" then name else placement ++ "." ++ name :=
  if_congr (by rw [String.isEmpty_iff]) rfl rfl

/-- A name with a namespace is none of the names without. -/
theorem Scope.qualify_not_primitive {placement name viewpoint : String}
    (isClass : name ∉ Output.primitiveNames) :
    Scope.qualify placement name viewpoint ∉ Output.primitiveNames := by
  unfold qualify
  split
  · exact isClass
  · intro listed
    -- a qualified name has a dot, and no primitive type does
    have dotted : '.' ∈ (placement ++ "." ++ name).toList := by simp
    simp only [Output.primitiveNames, List.mem_cons, List.not_mem_nil, or_false] at listed
    obtain equal | equal | equal := listed <;> rw [equal] at dotted <;> revert dotted <;> decide

/-- A field that refers to a declaration names the class of that declaration throughout. -/
theorem Scope.Binds.namesClass {scope : Scope} {viewpoint : String} {field : Field}
    {binding : Binding} (binds : scope.Binds viewpoint field binding)
    (kind : field.kind.isReference) :
    ∃ ref, field.target = some ref ∧ binding.NamesClass (scope.nameOf viewpoint ref) := by
  rw [Kind.isReference_iff] at kind
  cases binds with
  | constant _ _ target | object _ _ target =>
    exact ⟨_, target, rfl, rfl, by simp [Binding.of, Operand.className?]⟩
  | constants _ _ target =>
    exact ⟨_, target, rfl, rfl, by simp [Binding.of, Operand.className?]⟩
  | objects _ _ _ target | map _ target _ =>
    exact ⟨_, target, rfl, rfl, by simp [Binding.of, Operand.className?]⟩
  | _ => obtain kind | kind := kind <;> simp_all [Kind.isNarrow, Kind.isWide]

/-! ## Names of files -/

/-- Written in the namespace `viewpoint`, `name` is the name of a file that the module of the
    declaration is rendered to. -/
structure NamesFile (modules : List Module) (config : Config) (viewpoint : String)
    (declared : Declared) (name : String) : Prop where
  home : declared.home ∈ modules
  declares : declared.declaration ∈ declared.home.declarations
  file : ∀ files, (renderModule modules config declared.home).outcome = .ok files →
    ∃ file ∈ files, RendersTo modules config declared.home declared.declaration file ∧
      name = if file.placement = viewpoint ∨ file.placement = "" then file.typeName
        else file.placement ++ "." ++ file.typeName

/-- The class in the file of a declaration has a method of the given name that takes no
    arguments. -/
def OffersGetter (modules : List Module) (config : Config) (declared : Declared)
    (getter : String) : Prop :=
  ∀ files, (renderModule modules config declared.home).outcome = .ok files →
    ∃ file ∈ files, RendersTo modules config declared.home declared.declaration file ∧
      ∃ result, file.GetterReturns config getter result

variable {modules : List Module} {config : Config} {module : Module} {viewpoint : String}

/-- The name of a reference that leads to a declaration is the name of the declaration's file. -/
theorem namesFile_of_resolve {ref : TypeRef} {declared : Declared}
    (leads : (Scope.ofModule modules config module).resolve ref = some declared) :
    NamesFile modules config viewpoint declared
      ((Scope.ofModule modules config module).nameOf viewpoint ref) := by
  have sound := Registry.resolve_sound leads
  obtain ⟨listed, declares⟩ := Declared.mem_all.mp sound.1
  refine ⟨listed, declares, fun files rendered => ?_⟩
  obtain ⟨file, member, renders⟩ := exists_file_of_render rendered declares
  obtain ⟨named, placed⟩ := renders.labels
  refine ⟨file, member, renders, ?_⟩
  rw [Scope.nameOf_of_resolve leads, Scope.qualify_eq, named, placed,
    Scope.placementOfDeclared_ofModule]
  rfl

/-- A rendered struct offers the getter of each of its fields. -/
theorem offersGetter_of_field {home : Module} {struct : StructDecl} {field : Field}
    (declares : .struct struct ∈ home.declarations) (member : field ∈ struct.fields) :
    OffersGetter modules config ⟨home, .struct struct⟩ (getterName field.name) := by
  intro files rendered
  obtain ⟨file, listed, renders, binding, _, offered⟩ :=
    exists_getter_of_render rendered declares member
  exact ⟨file, listed, renders, _, offered⟩

/-- The declared name of what a reference leads to, where no declaration has the name of a
    primitive type, is no such name. -/
theorem nameOf_not_primitive {ref : TypeRef} {declared : Declared}
    (plain : ∀ home ∈ modules, ∀ declaration ∈ home.declarations,
      declaration.name ∉ Output.primitiveNames)
    (leads : (Scope.ofModule modules config module).resolve ref = some declared) :
    (Scope.ofModule modules config module).nameOf viewpoint ref ∉
      Output.primitiveNames := by
  obtain ⟨listed, declares⟩ := Declared.mem_all.mp (Registry.resolve_sound leads).1
  rw [Scope.nameOf_of_resolve leads]
  exact Scope.qualify_not_primitive (plain _ listed _ declares)

/-- The key argument of a map whose key refers to a declaration is the name of that
    declaration's file. -/
theorem Scope.Binds.keyArgument {field key : Field} {binding : Binding} {ref : TypeRef}
    {declared : Declared}
    (plain : ∀ home ∈ modules, ∀ declaration ∈ home.declarations,
      declaration.name ∉ Output.primitiveNames)
    (binds : (Scope.ofModule modules config module).Binds viewpoint field binding)
    (mapKey : (Scope.ofModule modules config module).MapKey field key)
    (kind : key.kind.isReference) (target : key.target = some ref)
    (leads : (Scope.ofModule modules config module).resolve ref = some declared) :
    ∃ name, binding.type.keyArgument? = some name ∧
      NamesFile modules config viewpoint declared name := by
  obtain ⟨_, keyType, _, typed, rfl⟩ := binds.of_mapKey mapKey
  have named := Scope.singleType_of_isReference kind target typed
  refine ⟨_, ?_, namesFile_of_resolve leads⟩
  rw [named]
  exact congrArg some (JavaType.box_eq_self (nameOf_not_primitive plain leads))

/-! ## All names of a class -/

/-- The class of a struct that is placed in `viewpoint` mentions, for one of its fields, only
    names of rendered files. -/
structure FieldNamesFiles (modules : List Module) (config : Config) (module : Module)
    (viewpoint : String) (bound : BoundField) : Prop where
  target : ∀ ref declared, bound.field.kind.isReference → bound.field.target = some ref →
    (Scope.ofModule modules config module).resolve ref = some declared →
    ∃ name, bound.binding.NamesClass name ∧ NamesFile modules config viewpoint declared name
  /-- The type argument for the keys of a map, if the key refers to a declaration itself. -/
  keyArgument : ∀ key ref declared,
    (Scope.ofModule modules config module).MapKey bound.field key →
    key.kind.isReference → key.target = some ref →
    (Scope.ofModule modules config module).resolve ref = some declared →
    ∃ name, bound.binding.type.keyArgument? = some name ∧
      NamesFile modules config viewpoint declared name
  /-- The getter that the elements of a map are asked for their keys with. -/
  getter : ∀ name, bound.field.kind = .struct → bound.field.repeated = true →
    bound.field.mapKey = some name →
    ∃ ref declared className getter, bound.field.target = some ref ∧
      (Scope.ofModule modules config module).resolve ref = some declared ∧
      bound.binding.read = .objectMap className getter ∧
      NamesFile modules config viewpoint declared className ∧
      OffersGetter modules config declared getter

theorem fieldNamesFiles_of_admits {bound : BoundField}
    (plain : ∀ home ∈ modules, ∀ declaration ∈ home.declarations,
      declaration.name ∉ Output.primitiveNames)
    (admitted : (Scope.ofModule modules config module).Admits viewpoint bound) :
    FieldNamesFiles modules config module viewpoint bound where
  target := by
    intro ref declared kind target leads
    obtain ⟨other, target', names⟩ := admitted.binds.namesClass kind
    cases target.symm.trans target'
    exact ⟨_, names, namesFile_of_resolve leads⟩
  keyArgument := by
    intro key ref declared mapKey kind target leads
    exact admitted.binds.keyArgument plain mapKey kind target leads
  getter := by
    intro name kind repeated asked
    obtain ⟨key, mapKey⟩ := admitted.binds.exists_mapKey kind repeated asked
    -- the getter is named for a field of the struct that the map refers to
    obtain ⟨ref, home, struct, target, leads, keyMember, _, _⟩ := mapKey.keyOfStruct
    obtain ⟨_, _, target', _, binding⟩ := admitted.binds.of_mapKey mapKey
    cases target.symm.trans target'
    have declares := (Declared.mem_all.mp (Registry.resolve_sound leads).1).2
    refine ⟨ref, _, _, _, target, leads, ?_, namesFile_of_resolve leads,
      offersGetter_of_field declares keyMember⟩
    rw [binding]
    rfl

/-- Every class that the source of a struct mentions, for a field or for the key of a map, is
    written with the name of a file that the module of its declaration is rendered to.  The
    getter that a map is keyed by is a method of the class that it is asked of. -/
theorem referenced_classes_rendered {struct : StructDecl} {own : RenderedFile}
    (plain : ∀ home ∈ modules, ∀ declaration ∈ home.declarations,
      declaration.name ∉ Output.primitiveNames)
    (rendered : RendersTo modules config module (.struct struct) own) :
    ∃ fields : List BoundField, fields.map (·.field) = struct.fields ∧
      own.Spells config (structClass struct.name fields) ∧
      ∀ bound ∈ fields, FieldNamesFiles modules config module own.placement bound := by
  obtain ⟨_, _, decl, generated, spelled⟩ := rendersTo_struct.mp rendered
  obtain ⟨fields, declared, admitted, rfl⟩ := Scope.classOf_outcome_ok.mp generated
  exact ⟨fields, declared, spelled, fun bound member =>
    fieldNamesFiles_of_admits plain (admitted bound member)⟩

namespace Sample

def item : Module :=
  ⟨"item.sp", "item", [⟨"Item", [.enumRef "color" 1 "Color"], .blank⟩],
    [.ofMembers "Color" ["Green"]]⟩

def items : Field := (Field.structRef "items" 1 "Item").keyedBy "color"

def bagStruct : StructDecl := ⟨"Bag", [items], .blank⟩

def bag : Module := ⟨"bag.sp", "bag", [bagStruct], []⟩

end Sample

open Sample in
/-- A map whose elements and keys are declared in another namespace. -/
theorem referenced_classes_rendered_bag :
    (∀ home ∈ [bag, item], ∀ declaration ∈ home.declarations,
      declaration.name ∉ Output.primitiveNames) ∧
    ∃ own, RendersTo [bag, item] .default bag (.struct bagStruct) own ∧
      ∃ fields : List BoundField, fields.map (·.field) = bagStruct.fields ∧
        own.Spells .default (structClass bagStruct.name fields) ∧
        ∀ bound ∈ fields, FieldNamesFiles [bag, item] .default bag own.placement bound := by
  have plain : ∀ home ∈ [bag, item], ∀ declaration ∈ home.declarations,
      declaration.name ∉ Output.primitiveNames := by decide
  obtain ⟨own, rendered⟩ :
      ∃ own, RendersTo [bag, item] .default bag (.struct bagStruct) own := ⟨_, rfl⟩
  exact ⟨plain, own, rendered, referenced_classes_rendered plain rendered⟩

end WireSchema
