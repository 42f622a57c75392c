import WireSchema.Proofs.Bindings
import WireSchema.Proofs.Execution

/-! # One member across the wire

A member is written by one call and read by another.  Whatever the form of its binding, the
second call finds the value that the first one wrote.

* `Library.byInt_ordinal` — constants travel as their positions.
* `Library.collect_values` — maps travel as their objects, without the keys.
* `Scope.Binds.restores` — form by form, reading a member undoes writing it.
-/

namespace WireSchema

open Output Execution

variable {Ω W : Type}

/-! ## Lists -/

/-- Where one function undoes another on the elements of a list, so it does on the list. -/
theorem mapM_mapM_of_undo {α β : Type} {f : α → Option β} {g : β → Option α} {list : List α}
    (undo : ∀ a ∈ list, ∃ b, f a = some b ∧ g b = some a) :
    ∃ images, list.mapM f = some images ∧ images.mapM g = some list := by
  induction list with
  | nil => exact ⟨[], rfl, rfl⟩
  | cons a list inductionHypothesis =>
    obtain ⟨b, there, back⟩ := undo a List.mem_cons_self
    obtain ⟨images, thereAll, backAll⟩ :=
      inductionHypothesis fun a member => undo a (List.mem_cons_of_mem _ member)
    refine ⟨b :: images, ?_, ?_⟩
    · simp [List.mapM_cons, there, thereAll]
    · simp [List.mapM_cons, back, backAll]

theorem payload?_objects (objects : List Ω) :
    WriteMethod.payload? .objects (.list (objects.map .object)) = some (.objects objects) := by
  have found : (objects.map Single.object).mapM Single.object? = some objects := by
    induction objects with
    | nil => rfl
    | cons object objects inductionHypothesis =>
      rw [List.map_cons, List.mapM_cons, inductionHypothesis]
      rfl
  rw [WriteMethod.payload?, found]
  rfl

/-! ## Classes behind names -/

namespace Execution.Library

variable {library : Library Ω W} {className : String}

theorem enum?_eq_some {declared : Declared} {decl : EnumClass} :
    library.enum? className = some (declared, decl) ↔
      library.classPath className = some declared ∧
        ∃ enum, declared.declaration = .enum enum ∧ decl = enum.toClass := by
  simp only [enum?, Option.bind_eq_bind, Option.bind_eq_some_iff, Option.pure_def,
    Option.some.injEq, Prod.mk.injEq]
  constructor
  · rintro ⟨found, path, enum, isEnum, rfl, rfl⟩
    cases declaration : found.declaration with
    | struct decl => rw [declaration] at isEnum; cases isEnum
    | enum decl =>
      rw [declaration] at isEnum
      cases isEnum
      exact ⟨path, enum, rfl, rfl⟩
  · rintro ⟨path, enum, declaration, rfl⟩
    exact ⟨declared, path, enum, by rw [declaration]; rfl, rfl, rfl⟩

theorem struct?_eq_some {declared : Declared} :
    library.struct? className = some declared ↔
      library.classPath className = some declared ∧
        ∃ struct, declared.declaration = .struct struct := by
  simp only [struct?, Option.bind_eq_bind, Option.bind_eq_some_iff, Option.pure_def,
    Option.some.injEq]
  constructor
  · rintro ⟨found, path, struct, isStruct, rfl⟩
    cases declaration : found.declaration with
    | struct decl => exact ⟨path, decl, rfl⟩
    | enum decl => rw [declaration] at isStruct; cases isStruct
  · rintro ⟨path, struct, declaration⟩
    exact ⟨declared, path, struct, by rw [declaration]; rfl, rfl⟩

/-- The values of an enum's class are its constants. -/
theorem Holds.constant_of_enum {declared : Declared} {decl : EnumClass} {value : Single Ω}
    (isEnum : library.enum? className = some (declared, decl))
    (holds : library.Holds className value) :
    ∃ name index, value = .constant declared name ∧ decl.constants.idxOf? name = some index ∧
      index < 2 ^ 31 := by
  cases holds with
  | @constant other _ name index isEnum' found small =>
    cases isEnum.symm.trans isEnum'
    exact ⟨name, index, rfl, found, small⟩
  | object isStruct =>
    -- one name leads to one declaration, which is not both
    obtain ⟨path, _, declaration, _⟩ := enum?_eq_some.mp isEnum
    obtain ⟨path', _, declaration'⟩ := struct?_eq_some.mp isStruct
    cases path.symm.trans path'
    cases declaration.symm.trans declaration'

/-- The values of a struct's class are its objects. -/
theorem Holds.object_of_struct {declared : Declared} {value : Single Ω}
    (isStruct : library.struct? className = some declared)
    (holds : library.Holds className value) :
    ∃ object, value = .object object ∧ library.instanceOf declared object := by
  cases holds with
  | object isStruct' isInstance =>
    cases isStruct.symm.trans isStruct'
    exact ⟨_, rfl, isInstance⟩
  | constant isEnum =>
    obtain ⟨path, _, declaration, _⟩ := enum?_eq_some.mp isEnum
    obtain ⟨path', _, declaration'⟩ := struct?_eq_some.mp isStruct
    cases path.symm.trans path'
    cases declaration.symm.trans declaration'

/-- The class of an enum finds each of its constants by its position. -/
theorem byInt_ordinal {declared : Declared} {decl : EnumClass} {value : Single Ω}
    (isEnum : library.enum? className = some (declared, decl))
    (holds : library.Holds className value) :
    ∃ position, value.ordinal? = some position ∧ library.byInt className position = some value := by
  obtain ⟨name, index, rfl, found, small⟩ := holds.constant_of_enum isEnum
  obtain ⟨_, enum, declaration, rfl⟩ := enum?_eq_some.mp isEnum
  refine ⟨Int32.ofNat index, ?_, ?_⟩
  · simp [Single.ordinal?, declaration, Declaration.enum?, EnumClass.position?, found]
  · have atIndex := EnumClass.byInt?_position found small
    simp only [byInt, isEnum, Option.bind_eq_bind, Option.bind_some, atIndex, Option.pure_def]

theorem exists_objects {className : String} {declared : Declared} {elements : List (Single Ω)}
    (isStruct : library.struct? className = some declared)
    (holds : ∀ element ∈ elements, library.Holds className element) :
    ∃ objects : List Ω, elements = objects.map .object ∧
      ∀ object ∈ objects, library.instanceOf declared object := by
  induction elements with
  | nil => exact ⟨[], rfl, by simp⟩
  | cons element elements inductionHypothesis =>
    obtain ⟨object, rfl, isInstance⟩ :=
      (holds element List.mem_cons_self).object_of_struct isStruct
    obtain ⟨objects, rfl, areInstances⟩ :=
      inductionHypothesis fun element member => holds element (List.mem_cons_of_mem _ member)
    exact ⟨object :: objects, rfl, List.forall_mem_cons.mpr ⟨isInstance, areInstances⟩⟩

/-! ## Maps -/

variable [DecidableEq Ω]

/-- What is found under a key, after a map is filled, has that key and is one of the objects,
    or was there before. -/
theorem lookup_foldl_insert {key : Ω → Single Ω} {objects : List Ω} {start : ObjectMap Ω}
    {under : Single Ω} {object : Ω}
    (found : (objects.foldl (fun entries object => entries.insert (key object) object)
      start).lookup under = some object) :
    (object ∈ objects ∧ key object = under) ∨ start.lookup under = some object := by
  induction objects generalizing start with
  | nil => exact .inr found
  | cons head objects inductionHypothesis =>
    obtain ⟨member, same⟩ | before := inductionHypothesis found
    · exact .inl ⟨List.mem_cons_of_mem _ member, same⟩
    · -- a later object hides an earlier one with the same key
      dsimp only at before
      by_cases same : key head = under
      · rw [same, Finmap.lookup_insert] at before
        cases before
        exact .inl ⟨List.mem_cons_self, same⟩
      · rw [Finmap.lookup_insert_of_ne _ (Ne.symm same)] at before
        exact .inr before

theorem mem_foldl_insert {key : Ω → Single Ω} {objects : List Ω} {start : ObjectMap Ω}
    {under : Single Ω} (there : (∃ object ∈ objects, key object = under) ∨ under ∈ start) :
    under ∈ objects.foldl (fun entries object => entries.insert (key object) object) start := by
  induction objects generalizing start with
  | nil =>
    obtain ⟨_, member, _⟩ | there := there
    · cases member
    · exact there
  | cons head objects inductionHypothesis =>
    rw [List.foldl_cons]
    refine inductionHypothesis ?_
    rw [Finmap.mem_insert]
    obtain ⟨object, member, same⟩ | there := there
    · rcases List.mem_cons.mp member with rfl | member
      · exact .inr (.inl same.symm)
      · exact .inl ⟨object, member, same⟩
    · exact .inr (.inr there)

/-- A map whose objects are stored under their own keys is collected from its objects again,
    in whatever order they are listed. -/
theorem collect_values (lawful : library.Lawful) {key : Ω → Single Ω} {entries : ObjectMap Ω}
    (keyed : ∀ under object, entries.lookup under = some object → key object = under) :
    collect key (library.values entries) = entries := by
  -- nothing is collected that was not in the map, and no key is lost
  have sound {under : Single Ω} {object : Ω}
      (found : (collect key (library.values entries)).lookup under = some object) :
      entries.lookup under = some object := by
    obtain ⟨member, same⟩ | before := lookup_foldl_insert found
    · obtain ⟨other, stored⟩ := (lawful.mem_values _ _).mp member
      have own := keyed other object stored
      rw [← same, own]
      exact stored
    · rw [Finmap.lookup_empty] at before
      cases before
  refine Finmap.ext_lookup fun under => ?_
  cases collected : (collect key (library.values entries)).lookup under with
  | some object => exact (sound collected).symm
  | none =>
    cases stored : entries.lookup under with
    | none => rfl
    | some object =>
      have member := (lawful.mem_values entries object).mpr ⟨under, stored⟩
      have inserted : under ∈ collect key (library.values entries) :=
        mem_foldl_insert (.inl ⟨object, member, keyed under object stored⟩)
      exact absurd inserted (Finmap.lookup_eq_none.mp collected)

end Execution.Library

/-! ## One field -/

/-- The kind of the fields that can refer to a declaration. -/
def Declaration.kind : Declaration → Kind
  | struct _ => .struct
  | enum _ => .enum

/-- What a field refers to is declared, and of the kind of the field. -/
def Scope.Leads (scope : Scope) (field : Field) : Prop :=
  ∀ ref, field.kind.isReference → field.target = some ref →
    ∃ declared, scope.resolve ref = some declared ∧ declared.declaration.kind = field.kind

/-- Under the name that a reference is written with, the library finds a class of the kind of
    the declaration that the reference leads to. -/
def Scope.Compiled (scope : Scope) (viewpoint : String) (library : Library Ω W) (field : Field) :
    Prop :=
  ∀ ref declared, field.target = some ref → scope.resolve ref = some declared →
    ∃ found, library.classPath (scope.nameOf viewpoint ref) = some found ∧
      found.declaration.kind = declared.declaration.kind

/-- The class that a field refers to is found under the name it is written with, and is of the
    kind of the field. -/
def Scope.Links (scope : Scope) (viewpoint : String) (library : Library Ω W) (field : Field) :
    Prop :=
  ∀ ref, field.kind.isReference → field.target = some ref →
    ∃ declared, library.classPath (scope.nameOf viewpoint ref) = some declared ∧
      declared.declaration.kind = field.kind

variable {scope : Scope} {viewpoint : String} {library : Library Ω W} {field : Field}

theorem Scope.Leads.links (leads : scope.Leads field)
    (compiled : scope.Compiled viewpoint library field) : scope.Links viewpoint library field := by
  intro ref reference target
  obtain ⟨declared, resolved, kind⟩ := leads ref reference target
  obtain ⟨found, path, same⟩ := compiled ref declared target resolved
  exact ⟨found, path, same.trans kind⟩

theorem Scope.Links.enum? {ref : TypeRef} (links : scope.Links viewpoint library field)
    (kind : field.kind = .enum) (target : field.target = some ref) :
    ∃ declared decl, library.enum? (scope.nameOf viewpoint ref) = some (declared, decl) := by
  obtain ⟨declared, path, same⟩ := links ref (Kind.isReference_iff.mpr (.inl kind)) target
  rw [kind] at same
  cases declaration : declared.declaration with
  | struct decl => rw [declaration] at same; cases same
  | enum decl => exact ⟨_, _, Library.enum?_eq_some.mpr ⟨path, decl, declaration, rfl⟩⟩

theorem Scope.Links.struct? {ref : TypeRef} (links : scope.Links viewpoint library field)
    (kind : field.kind = .struct) (target : field.target = some ref) :
    ∃ declared, library.struct? (scope.nameOf viewpoint ref) = some declared := by
  obtain ⟨declared, path, same⟩ := links ref (Kind.isReference_iff.mpr (.inr kind)) target
  rw [kind] at same
  cases declaration : declared.declaration with
  | struct decl => exact ⟨_, Library.struct?_eq_some.mpr ⟨path, decl, declaration⟩⟩
  | enum decl => rw [declaration] at same; cases same

variable [DecidableEq Ω]

/-- A map member stores its objects under what the getter of the key answers. -/
def Scope.StoredByKey (scope : Scope) (library : Library Ω W) (field : Field)
    (value : Value Ω) : Prop :=
  ∀ key entries, scope.MapKey field key → value = .map entries →
    ∀ under object, entries.lookup under = some object →
      library.answer (getterName key.name) object = under

/-- The call that reads a member undoes the call that writes it, for a value of the member. -/
def Output.Binding.Restores (binding : Output.Binding) (library : Library Ω W) (tag : UInt16)
    (value : Value Ω) : Prop :=
  ∃ payload, binding.write.payload? library value = some payload ∧
    ∀ wire, library.Reads wire tag payload → binding.read.run library wire tag = some value

theorem restores_constant {className : String} {value : Value Ω}
    {declared : Declared} {decl : EnumClass}
    (isEnum : library.enum? className = some (declared, decl))
    (fits : library.Fits (.named className) value) :
    (Binding.of field (.named className) (.enumMember className field.tag) .number
      .ordinal).Restores library field.tag value := by
  cases fits with
  | @named _ value holds =>
    obtain ⟨position, ordinal, back⟩ := Library.byInt_ordinal isEnum holds
    refine ⟨.number position.toInt64, ?_, fun wire reads => ?_⟩
    · simp [Binding.of, WriteCall.payload?, Operand.run, ordinal, WriteMethod.payload?]
    · simp [Binding.of, ReadCall.run, reads.1, back]

theorem restores_constants {className : String} {value : Value Ω} (lawful : library.Lawful)
    {declared : Declared} {decl : EnumClass}
    (isEnum : library.enum? className = some (declared, decl))
    (fits : library.Fits (.list (.named className)) value) :
    (Binding.of field (.list (.named className)) (.enumMembers className) .numbers
      (.ordinals className)).Restores library field.tag value := by
  cases fits with
  | @list _ elements holds =>
    obtain ⟨positions, ordinals, back⟩ := mapM_mapM_of_undo fun element member =>
      Library.byInt_ordinal isEnum (holds element member)
    refine ⟨.ints positions, ?_, fun wire reads => ?_⟩
    · simp [Binding.of, WriteCall.payload?, Operand.run, isEnum, lawful.positions_eq, ordinals,
        WriteMethod.payload?]
    · have found : library.readInts wire field.tag = some positions := reads
      simp [Binding.of, ReadCall.run, found, lawful.constants_eq, back]

theorem restores_object {className : String} {value : Value Ω} {declared : Declared}
    (isStruct : library.struct? className = some declared)
    (fits : library.Fits (.named className) value) :
    (Binding.of field (.named className) (.object className) .object .itself).Restores library
      field.tag value := by
  cases fits with
  | named holds =>
    obtain ⟨object, rfl, isInstance⟩ := holds.object_of_struct isStruct
    refine ⟨.object object, rfl, fun wire reads => ?_⟩
    simp [Binding.of, ReadCall.run, isStruct, reads declared isInstance]

theorem restores_objects {className : String} {value : Value Ω} {declared : Declared}
    (isStruct : library.struct? className = some declared)
    (fits : library.Fits (.list (.named className)) value) :
    (Binding.of field (.list (.named className)) (.objects className) .objects .itself).Restores
      library field.tag value := by
  cases fits with
  | list holds =>
    obtain ⟨objects, rfl, areInstances⟩ := Library.exists_objects isStruct holds
    refine ⟨.objects objects, payload?_objects objects, fun wire reads => ?_⟩
    simp [Binding.of, ReadCall.run, isStruct, (reads declared areInstances).1]

theorem restores_map {className getter : String} {keyType : JavaType} {value : Value Ω}
    {declared : Declared} (lawful : library.Lawful)
    (isStruct : library.struct? className = some declared)
    (fits : library.Fits (.map keyType (.named className)) value)
    (stored : ∀ entries, value = .map entries →
      ∀ under object, entries.lookup under = some object → library.answer getter object = under) :
    (Binding.of field (.map keyType (.named className)) (.objectMap className getter) .objects
      .values).Restores library field.tag value := by
  cases fits with
  | @map _ _ entries _ holds =>
    have areInstances : ∀ object ∈ library.values entries,
        library.instanceOf declared object := by
      intro object member
      obtain ⟨under, found⟩ := (lawful.mem_values entries object).mp member
      obtain ⟨_, same, isInstance⟩ := (holds under object found).object_of_struct isStruct
      cases same
      exact isInstance
    refine ⟨.objects (library.values entries), payload?_objects _, fun wire reads => ?_⟩
    -- the keys are not sent: the reader asks the objects for them
    have found := (reads declared areInstances).2 (library.answer getter)
    rw [Library.collect_values lawful (stored entries rfl)] at found
    simp [Binding.of, ReadCall.run, isStruct, found]

/-- Whatever the form of its binding, a field is restored. -/
theorem Scope.Binds.restores {binding : Output.Binding} {value : Value Ω}
    (binds : scope.Binds viewpoint field binding) (lawful : library.Lawful)
    (links : scope.Links viewpoint library field) (fits : library.Fits binding.type value)
    (stored : scope.StoredByKey library field value) :
    binding.Restores library field.tag value := by
  cases binds with
  | flag =>
    cases fits with
    | boolean flag =>
      refine ⟨.number (if flag then 1 else 0), ?_, fun wire reads => ?_⟩
      · cases flag <;> rfl
      · simp [Binding.of, ReadCall.run, reads.2 flag rfl]
  | flags =>
    cases fits with
    | booleans values =>
      refine ⟨.flags values, rfl, fun wire reads => ?_⟩
      have found : library.readFlags wire field.tag = some values := reads
      simp [Binding.of, ReadCall.run, found]
  | narrow =>
    cases fits with
    | int number =>
      refine ⟨.number number.toInt64, rfl, fun wire reads => ?_⟩
      simp [Binding.of, ReadCall.run, reads.1]
  | narrows =>
    cases fits with
    | ints values =>
      refine ⟨.ints values, rfl, fun wire reads => ?_⟩
      have found : library.readInts wire field.tag = some values := reads
      simp [Binding.of, ReadCall.run, found]
  | wide =>
    cases fits with
    | long number =>
      refine ⟨.number number, rfl, fun wire reads => ?_⟩
      simp [Binding.of, ReadCall.run, reads.1]
  | wides =>
    cases fits with
    | longs values =>
      refine ⟨.longs values, rfl, fun wire reads => ?_⟩
      have found : library.readLongs wire field.tag = some values := reads
      simp [Binding.of, ReadCall.run, found]
  | text =>
    cases fits with
    | text text =>
      refine ⟨.text text, rfl, fun wire reads => ?_⟩
      have found : library.readText wire field.tag = some text := reads
      simp [Binding.of, ReadCall.run, found]
  | texts =>
    cases fits with
    | texts values =>
      refine ⟨.texts values, rfl, fun wire reads => ?_⟩
      have found : library.readTexts wire field.tag = some values := reads
      simp [Binding.of, ReadCall.run, found]
  | blob =>
    cases fits with
    | blob bytes =>
      refine ⟨.blob bytes, rfl, fun wire reads => ?_⟩
      have found : library.readBlob wire field.tag = some bytes := reads
      simp [Binding.of, ReadCall.run, found]
  | constant kind _ target =>
    obtain ⟨declared, decl, isEnum⟩ := links.enum? kind target
    exact restores_constant isEnum fits
  | constants kind _ target =>
    obtain ⟨declared, decl, isEnum⟩ := links.enum? kind target
    exact restores_constants lawful isEnum fits
  | object kind _ target =>
    obtain ⟨declared, isStruct⟩ := links.struct? kind target
    exact restores_object isStruct fits
  | objects kind _ _ target =>
    obtain ⟨declared, isStruct⟩ := links.struct? kind target
    exact restores_objects isStruct fits
  | map mapKey target _ =>
    obtain ⟨declared, isStruct⟩ := links.struct? mapKey.kind target
    exact restores_map lawful isStruct fits fun entries => stored _ entries mapKey

end WireSchema
