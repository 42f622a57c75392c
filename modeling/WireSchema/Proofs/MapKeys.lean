import WireSchema.Proofs.ClassNames

/-! # Types of map keys

The key of a map is a field of another struct, but the map is declared with the type of the key
as the struct that holds the map sees it.  A reference can lead elsewhere from there.

* `JavaType.readIn` is the type that a spelling stands for in a file of a namespace.
* `Registry.resolve_eq_iff` says when a reference leads two modules to the same declaration.
* `mapKey_type_eq_iff` says when a map is keyed by the type that the getter of its key returns.
-/

namespace WireSchema

open Output (JavaType Binding getterName)

/-! ## Full names -/

/-- The full name of a class in a namespace. -/
def inNamespace (placement name : String) : String :=
  if placement = "" then name else placement ++ "." ++ name

theorem inNamespace_inj {placement other name : String} :
    inNamespace placement name = inNamespace other name ↔ placement = other := by
  constructor
  · unfold inNamespace
    intro same
    have lengths := congrArg String.length same
    -- an unqualified name is shorter than a qualified one
    by_cases empty : placement = "" <;> by_cases empty' : other = ""
    · rw [empty, empty']
    · simp [empty, empty', String.length_append] at lengths
    · simp [empty, empty', String.length_append] at lengths
    · rw [if_neg empty, if_neg empty', ← String.toList_inj, String.toList_append,
        String.toList_append, String.toList_append, String.toList_append, List.append_assoc,
        List.append_assoc, List.append_cancel_right_eq] at same
      exact String.toList_inj.mp same
  · rintro rfl
    rfl

/-- The full name that a class name stands for in a file of the namespace `placement`. -/
def fullName (placement name : String) : String :=
  if '.' ∈ name.toList then name else inNamespace placement name

/-- The type that a spelling stands for in a file of the namespace `placement`. -/
def Output.JavaType.readIn (placement : String) : JavaType → JavaType
  | .named className => .named (fullName placement className)
  | .array element => .array (element.readIn placement)
  | .list element => .list (element.readIn placement)
  | .map key element => .map (key.readIn placement) (element.readIn placement)
  | .boolean => .boolean
  | .int => .int
  | .long => .long
  | .float => .float
  | .text => .text
  | .blob => .blob

/-- A type that belongs to a kind is the same everywhere. -/
theorem Output.JavaType.readIn_basic {kind : Kind} {type : JavaType}
    (basic : kind.basicType? = some type) (placement : String) : type.readIn placement = type := by
  cases kind <;> cases basic <;> rfl

/-! ## Packages -/

/-- The namespace that a name written for a reference is looked up in, if it is written in a
    file of the namespace `viewpoint`. -/
def Scope.packageOf (scope : Scope) (viewpoint : String) (ref : TypeRef) : String :=
  match scope.resolve ref with
  | none => viewpoint
  | some declared =>
    if scope.placementOfDeclared declared = "" then viewpoint
    else scope.placementOfDeclared declared

variable {modules : List Module} {config : Config} {module home : Module} {viewpoint : String}

theorem Scope.packageOf_eq_viewpoint {scope : Scope} {ref : TypeRef}
    (empty : scope.packageOf viewpoint ref = "") : viewpoint = "" := by
  unfold packageOf at empty
  split at empty
  · exact empty
  · split at empty
    · exact empty
    · next placed => exact absurd empty placed

/-- A name is written without its namespace exactly in that namespace. -/
theorem nameOf_eq_packageOf (ref : TypeRef) :
    (Scope.ofModule modules config module).nameOf viewpoint ref =
      if (Scope.ofModule modules config module).packageOf viewpoint ref = viewpoint then ref.name
      else (Scope.ofModule modules config module).packageOf viewpoint ref ++ "." ++ ref.name := by
  unfold Scope.packageOf
  cases leads : (Scope.ofModule modules config module).resolve ref with
  | none => simp [Scope.nameOf, leads]
  | some declared =>
    have named : declared.name = ref.name := (Registry.resolve_sound leads).2
    rw [Scope.nameOf_of_resolve leads, Scope.qualify_eq, named]
    dsimp only
    by_cases empty : (Scope.ofModule modules config module).placementOfDeclared declared = ""
    · simp [empty]
    · simp [empty]

/-- A name without dots stands for the class in the namespace that it is looked up in. -/
theorem fullName_nameOf {ref : TypeRef} (simple : '.' ∉ ref.name.toList) :
    fullName viewpoint ((Scope.ofModule modules config module).nameOf viewpoint ref) =
      inNamespace ((Scope.ofModule modules config module).packageOf viewpoint ref) ref.name := by
  rw [nameOf_eq_packageOf]
  by_cases here : (Scope.ofModule modules config module).packageOf viewpoint ref = viewpoint
  · rw [if_pos here, fullName, if_neg simple, here]
  · have placed : (Scope.ofModule modules config module).packageOf viewpoint ref ≠ "" :=
      fun empty => here (empty.trans (Scope.packageOf_eq_viewpoint empty).symm)
    have dotted : '.' ∈ ((Scope.ofModule modules config module).packageOf viewpoint ref ++ "." ++
        ref.name).toList := by simp
    rw [if_neg here, fullName, if_pos dotted, inNamespace, if_neg placed]

/-! ## Lookups -/

/-- What a module sees under a name: its own declaration, or else the first one of all. -/
def Registry.view (registry : Registry) (owner name : String) : Option Declared :=
  (registry.declaredIn? owner name).or (registry.get? name)

/-- A reference leads two modules to the same declaration exactly if it names a module that
    declares its type, or both see the same under its name. -/
theorem Registry.resolve_eq_iff {registry : Registry} {owner other : String} {ref : TypeRef} :
    registry.resolve (some owner) ref = registry.resolve (some other) ref ↔
      (∃ pin declared, ref.home = some pin ∧ registry.declaredIn? pin ref.name = some declared) ∨
        registry.view owner ref.name = registry.view other ref.name := by
  have split (owner : String) : registry.resolve (some owner) ref =
      (ref.home.bind fun pin => registry.declaredIn? pin ref.name).or
        (registry.view owner ref.name) := rfl
  rw [split, split]
  -- a pin that declares the type leads away from both views
  cases pinned : ref.home.bind fun pin => registry.declaredIn? pin ref.name with
  | some declared =>
    obtain ⟨pin, named, declares⟩ := Option.bind_eq_some_iff.mp pinned
    simp only [Option.some_or, true_iff]
    exact .inl ⟨pin, declared, named, declares⟩
  | none =>
    simp only [Option.none_or]
    constructor
    · exact .inr
    · rintro (⟨pin, declared, named, declares⟩ | same)
      · rw [named, Option.bind_some, declares] at pinned
        cases pinned
      · exact same

/-! ## Keys -/

/-- Two modules type a field alike exactly if they look its reference up in the same
    namespace. -/
theorem readIn_eq_iff {field : Field} {viewpoint' : String} {type type' : JavaType}
    (simple : ∀ ref, field.target = some ref → '.' ∉ ref.name.toList)
    (typed : ((Scope.ofModule modules config module).singleType viewpoint field).outcome =
      .ok type)
    (typed' : ((Scope.ofModule modules config home).singleType viewpoint' field).outcome =
      .ok type') :
    type.readIn viewpoint = type'.readIn viewpoint' ↔
      ∀ ref, field.kind.isReference → field.target = some ref →
        (Scope.ofModule modules config module).packageOf viewpoint ref =
          (Scope.ofModule modules config home).packageOf viewpoint' ref := by
  -- only references are spelled by where they stand
  by_cases reference : field.kind.isReference
  · have target : ∃ ref, field.target = some ref := by
      obtain basic | ⟨_, ref, target, _⟩ := Scope.singleType_outcome_ok.mp typed
      · rw [Kind.basicType?_eq_none.mpr reference] at basic
        cases basic
      · exact ⟨ref, target⟩
    obtain ⟨ref, target⟩ := target
    have named := Scope.singleType_of_isReference reference target typed
    have named' := Scope.singleType_of_isReference reference target typed'
    have simple := simple ref target
    rw [named, named', JavaType.readIn, JavaType.readIn, fullName_nameOf simple,
      fullName_nameOf simple, JavaType.named.injEq, inNamespace_inj]
    simp only [reference, target, Option.some.injEq, forall_const, forall_eq']
  · have basic {scope : Scope} {viewpoint : String} {type : JavaType}
        (typed : (scope.singleType viewpoint field).outcome = .ok type) :
        field.kind.basicType? = some type := by
      obtain basic | ⟨reference', _⟩ := Scope.singleType_outcome_ok.mp typed
      · exact basic
      · exact absurd reference' reference
    rw [JavaType.readIn_basic (basic typed), JavaType.readIn_basic (basic typed')]
    have same := Option.some.inj ((basic typed).symm.trans (basic typed'))
    simp only [same, reference, Bool.false_eq_true, false_implies, implies_true]

/-- The key of a map has, in the file that holds the map, the type that its getter returns in
    the file of the map's elements exactly if both files look the key's class up in the same
    namespace, where class names are written without dots.  Both mean the same declaration
    exactly if the key's reference names a module that declares it, or their modules see the same
    under its name. -/
theorem mapKey_type_eq_iff {field key : Field} {binding : Binding}
    (bound : ((Scope.ofModule modules config module).bind viewpoint field).outcome = .ok binding)
    (mapKey : (Scope.ofModule modules config module).MapKey field key) :
    ∃ ref home struct keyType element, field.target = some ref ∧
      (Scope.ofModule modules config module).resolve ref = some ⟨home, .struct struct⟩ ∧
      binding.type = .map keyType element ∧
      ∀ files, (renderModule modules config home).outcome = .ok files →
        ∃ file ∈ files, RendersTo modules config home (.struct struct) file ∧
          ∃ result, file.GetterReturns config (getterName key.name) result ∧
            ((∀ ref, key.target = some ref → '.' ∉ ref.name.toList) →
              (keyType.readIn viewpoint = result.readIn file.placement ↔
                ∀ ref, key.kind.isReference → key.target = some ref →
                  (Scope.ofModule modules config module).packageOf viewpoint ref =
                    (Scope.ofModule modules config home).packageOf file.placement ref)) ∧
            ∀ ref, key.target = some ref →
              ((Scope.ofModule modules config module).resolve ref =
                  (Scope.ofModule modules config home).resolve ref ↔
                (∃ pin declared, ref.home = some pin ∧
                  (Registry.ofModules modules).declaredIn? pin ref.name = some declared) ∨
                (Registry.ofModules modules).view module.name ref.name =
                  (Registry.ofModules modules).view home.name ref.name) := by
  obtain ⟨ref, home, struct, target, leads, member, _, single⟩ := mapKey.keyOfStruct
  obtain ⟨_, keyType, _, typed, rfl⟩ := (Scope.bind_outcome_ok.mp bound).of_mapKey mapKey
  have declares := (Declared.mem_all.mp (Registry.resolve_sound leads).1).2
  refine ⟨ref, home, struct, keyType, _, target, leads, rfl, fun files rendered => ?_⟩
  obtain ⟨file, listed, renders, keyBinding, binds, offered⟩ :=
    exists_getter_of_render rendered declares member
  have typed' := binds.singleType single
  exact ⟨file, listed, renders, _, offered, fun simple => readIn_eq_iff simple typed typed',
    fun ref _ => Registry.resolve_eq_iff⟩

/-- The bag in a module that has colors of its own. -/
def Sample.paintedBag : Module := { Sample.bag with enums := [.ofMembers "Color" ["Red"]] }

/-- Where either module declares a color, the bag is keyed by its own colors, and the items
    answer theirs. -/
theorem mapKey_type_paintedBag :
    ∃ key binding keyType element files file result,
      ((Scope.ofModule [Sample.paintedBag, Sample.item] .default Sample.paintedBag).bind "bag"
        Sample.items).outcome = .ok binding ∧
      (Scope.ofModule [Sample.paintedBag, Sample.item] .default Sample.paintedBag).MapKey
        Sample.items key ∧
      (∀ ref, key.target = some ref → '.' ∉ ref.name.toList) ∧
      binding.type = .map keyType element ∧
      (renderModule [Sample.paintedBag, Sample.item] .default Sample.item).outcome = .ok files ∧
      file ∈ files ∧ file.GetterReturns .default (getterName key.name) result ∧
      keyType.readIn "bag" ≠ result.readIn file.placement ∧
      ∀ ref, key.target = some ref →
        (Scope.ofModule [Sample.paintedBag, Sample.item] .default Sample.paintedBag).resolve ref ≠
          (Scope.ofModule [Sample.paintedBag, Sample.item] .default Sample.item).resolve ref := by
  obtain ⟨binding, bound⟩ : ∃ binding,
      ((Scope.ofModule [Sample.paintedBag, Sample.item] .default Sample.paintedBag).bind "bag"
        Sample.items).outcome = .ok binding := ⟨_, rfl⟩
  have mapKey : (Scope.ofModule [Sample.paintedBag, Sample.item] .default
      Sample.paintedBag).MapKey Sample.items (.enumRef "color" 1 "Color") :=
    ⟨rfl, rfl, "color", rfl, rfl⟩
  have simple : ∀ ref, (Field.enumRef "color" 1 "Color").target = some ref →
      '.' ∉ ref.name.toList := by
    rintro _ ⟨⟩
    decide
  obtain ⟨files, rendered⟩ : ∃ files,
      (renderModule [Sample.paintedBag, Sample.item] .default Sample.item).outcome = .ok files :=
    ⟨_, rfl⟩
  obtain ⟨ref, home, struct, keyType, element, target, leads, typed, renders⟩ :=
    mapKey_type_eq_iff bound mapKey
  cases target
  cases leads
  obtain ⟨file, listed, own, result, offered, types, declarations⟩ := renders files rendered
  have placed : file.placement = "item" := own.labels.2
  refine ⟨_, binding, keyType, element, files, file, result, bound, mapKey, simple, typed,
    rendered, listed, offered, ?_, ?_⟩
  · intro same
    have packages := (types simple).mp same _ rfl rfl
    rw [placed] at packages
    revert packages
    decide
  · rintro ref ⟨⟩ same
    obtain ⟨_, _, unpinned, _⟩ | views := (declarations _ rfl).mp same
    · cases unpinned
    · revert views
      decide

end WireSchema
