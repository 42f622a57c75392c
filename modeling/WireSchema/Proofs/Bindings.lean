import WireSchema.Output.StructClass
import WireSchema.Proofs.Logged

/-! # What a field is bound to

`Scope.bind` is a computation with warnings and failures.  Its successes are described here by a
relation with one constructor per form of binding, so that a later proof about all fields is a
case analysis over fifteen forms, without a look into the computation.

* `Scope.nameOf` is the name that a reference is written with.
* `Scope.MapKey` ties a map field to the field that keys it.
* `Scope.Binds` is the relation, and `bind_outcome_ok` says that it is exact.
* `classOf_outcome_ok` takes the class of a struct apart into its bound fields, and `mem_methods`
  takes its methods apart.
-/

namespace WireSchema

open Output (JavaType ReadCall WriteMethod Operand BoundField ClassDecl getterName structClass)

/-- The type of a field that is no collection and refers to nothing. -/
def Kind.basicType? : Kind → Option JavaType
  | .bool => some .boolean
  | .integer | .int32 => some .int
  | .int64 | .uint32 | .uint64 | .float32 | .float64 => some .long
  | .string => some .text
  | .bytes => some .blob
  | .enum | .struct => none

/-- The kinds without a type of their own are those that refer to a declaration. -/
theorem Kind.basicType?_eq_none {kind : Kind} : kind.basicType? = none ↔ kind.isReference := by
  cases kind <;> simp [basicType?, isReference]

theorem Kind.isNarrow_iff {kind : Kind} : kind.isNarrow ↔ kind.basicType? = some .int := by
  cases kind <;> simp [basicType?, isNarrow]

theorem Kind.isWide_iff {kind : Kind} : kind.isWide ↔ kind.basicType? = some .long := by
  cases kind <;> simp [basicType?, isWide]

theorem Kind.isReference_iff {kind : Kind} : kind.isReference ↔ kind = .enum ∨ kind = .struct := by
  cases kind <;> simp [isReference]

namespace Scope

variable {scope : Scope} {viewpoint : String} {field : Field}

/-! ## Names -/

/-- The name that a reference is written with in the namespace `viewpoint`. -/
def nameOf (scope : Scope) (viewpoint : String) (ref : TypeRef) : String :=
  match scope.resolve ref with
  | none => ref.name
  | some declared => qualify (scope.placementOfDeclared declared) declared.name viewpoint

theorem nameOf_of_resolve {ref : TypeRef} {declared : Declared}
    (leads : scope.resolve ref = some declared) :
    scope.nameOf viewpoint ref =
      qualify (scope.placementOfDeclared declared) declared.name viewpoint := by
  simp only [nameOf, leads]

theorem className_outcome {ε : Type} (scope : Scope) (viewpoint : String) (ref : TypeRef) :
    (scope.className viewpoint ref : Logged ε String).outcome =
      .ok (scope.nameOf viewpoint ref) := by
  unfold className nameOf
  cases scope.resolve ref with
  | none => exact Logged.bind_outcome_of_ok (Logged.outcome_report _)
  | some declared => rfl

theorem referencedClass_outcome_ok {name : String} :
    (scope.referencedClass viewpoint field).outcome = .ok name ↔
      ∃ ref, field.target = some ref ∧ scope.nameOf viewpoint ref = name := by
  unfold referencedClass
  cases field.target with
  | none => simp
  | some ref => simp [className_outcome]

/-! ## Single types -/

/-- The type of a field that is no collection belongs to its kind, or else is the class that the
    field refers to. -/
theorem singleType_outcome_ok {type : JavaType} :
    (scope.singleType viewpoint field).outcome = .ok type ↔
      field.kind.basicType? = some type ∨
        field.kind.isReference ∧
          ∃ ref, field.target = some ref ∧ .named (scope.nameOf viewpoint ref) = type := by
  unfold singleType
  cases kind : field.kind <;>
    simp [Kind.basicType?, Kind.isReference, Logged.bind_outcome_ok, referencedClass_outcome_ok]

theorem singleType_of_isReference {type : JavaType} {ref : TypeRef}
    (kind : field.kind.isReference) (target : field.target = some ref)
    (typed : (scope.singleType viewpoint field).outcome = .ok type) :
    type = .named (scope.nameOf viewpoint ref) := by
  obtain basic | ⟨_, other, target', rfl⟩ := singleType_outcome_ok.mp typed
  · rw [Kind.basicType?_eq_none.mpr kind] at basic
    cases basic
  · cases target.symm.trans target'
    rfl

/-! ## Map keys -/

/-- A key is found exactly if the field refers to a struct that has a field of that name, which
    is no collection. -/
theorem mapKeyField_ok {name : String} {key : Field} :
    scope.mapKeyField field name = .ok key ↔
      ∃ ref struct, field.target = some ref ∧ scope.struct? ref = some struct ∧
        struct.field? name = some key ∧ key.repeated = false ∧ key.mapKey = none := by
  unfold mapKeyField
  cases field.target with
  | none => simp
  | some ref =>
    dsimp only
    cases structFound : scope.struct? ref with
    | none => simp [structFound]
    | some struct =>
      dsimp only
      cases keyFound : struct.field? name with
      | none => simp [structFound, keyFound]
      | some found =>
        simp only [Option.some.injEq, exists_and_left, exists_eq_left', structFound, keyFound]
        -- the last check of all: the key itself is a single value
        by_cases collection : found.repeated || found.mapKey.isSome
        · simp only [collection, if_true, reduceCtorEq, false_iff]
          rintro ⟨rfl, single, unkeyed⟩
          simp [single, unkeyed] at collection
        · simp only [collection, if_false, Except.ok.injEq, Bool.false_eq_true]
          simp only [Bool.or_eq_true, not_or, Bool.not_eq_true, Option.isSome_eq_false_iff,
            Option.isNone_iff_eq_none] at collection
          constructor
          · rintro rfl
            exact ⟨rfl, collection⟩
          · rintro ⟨rfl, _⟩
            rfl

theorem struct?_eq_some {ref : TypeRef} {struct : StructDecl} :
    scope.struct? ref = some struct ↔
      ∃ home, scope.resolve ref = some ⟨home, .struct struct⟩ := by
  simp only [struct?, Option.bind_eq_bind, Option.bind_eq_some_iff]
  constructor
  · rintro ⟨⟨home, declaration⟩, leads, isStruct⟩
    cases declaration with
    | struct decl => cases isStruct; exact ⟨home, leads⟩
    | enum decl => cases isStruct
  · rintro ⟨home, leads⟩
    exact ⟨_, leads, rfl⟩

/-- The field `key` keys the map field `field`. -/
structure MapKey (scope : Scope) (field key : Field) : Prop where
  kind : field.kind = .struct
  repeated : field.repeated = true
  found : ∃ name, field.mapKey = some name ∧ scope.mapKeyField field name = .ok key

namespace MapKey

variable {key other : Field}

theorem unique (mapKey : scope.MapKey field key) (mapKey' : scope.MapKey field other) :
    key = other := by
  obtain ⟨name, keyed, found⟩ := mapKey.found
  obtain ⟨name', keyed', found'⟩ := mapKey'.found
  cases keyed.symm.trans keyed'
  exact Except.ok.inj (found.symm.trans found')

/-- The key of a map is a field of the struct that the map refers to, and no collection. -/
theorem keyOfStruct (mapKey : scope.MapKey field key) :
    ∃ ref home struct, field.target = some ref ∧
      scope.resolve ref = some ⟨home, .struct struct⟩ ∧ key ∈ struct.fields ∧
      field.mapKey.bind struct.field? = some key ∧ key.repeated = false := by
  obtain ⟨name, keyed, found⟩ := mapKey.found
  obtain ⟨ref, struct, target, isStruct, keyFound, single, _⟩ := mapKeyField_ok.mp found
  obtain ⟨home, leads⟩ := struct?_eq_some.mp isStruct
  refine ⟨ref, home, struct, target, leads, List.mem_of_find?_eq_some keyFound, ?_, single⟩
  rw [keyed]
  exact keyFound

end MapKey

/-! ## Forms of bindings -/

/-- The bindings of a field, one constructor per form.  Names are written as they are seen from
    `viewpoint`. -/
inductive Binds (scope : Scope) (viewpoint : String) (field : Field) :
    Output.Binding → Prop where
  | flag : field.kind = .bool → field.repeated = false →
      Binds scope viewpoint field (.of field .boolean (.flag field.tag) .number .flag)
  | flags : field.kind = .bool → field.repeated = true →
      Binds scope viewpoint field (.of field (.array .boolean) .flags .flags .itself)
  | narrow : field.kind.isNarrow → field.repeated = false →
      Binds scope viewpoint field (.of field .int (.narrowNumber field.tag) .number .itself)
  | narrows : field.kind.isNarrow → field.repeated = true →
      Binds scope viewpoint field (.of field (.array .int) .narrowNumbers .numbers .itself)
  | wide : field.kind.isWide → field.repeated = false →
      Binds scope viewpoint field (.of field .long (.number field.tag) .number .itself)
  | wides : field.kind.isWide → field.repeated = true →
      Binds scope viewpoint field (.of field (.array .long) .numbers .numbers .itself)
  | text : field.kind = .string → field.repeated = false →
      Binds scope viewpoint field (.of field .text .text .text .itself)
  | texts : field.kind = .string → field.repeated = true →
      Binds scope viewpoint field (.of field (.array .text) .texts .texts .itself)
  | blob : field.kind = .bytes →
      Binds scope viewpoint field (.of field .blob .blob .blob .itself)
  | constant {ref : TypeRef} : field.kind = .enum → field.repeated = false →
      field.target = some ref →
      Binds scope viewpoint field
        (.of field (.named (scope.nameOf viewpoint ref))
          (.enumMember (scope.nameOf viewpoint ref) field.tag) .number .ordinal)
  | constants {ref : TypeRef} : field.kind = .enum → field.repeated = true →
      field.target = some ref →
      Binds scope viewpoint field
        (.of field (.list (.named (scope.nameOf viewpoint ref)))
          (.enumMembers (scope.nameOf viewpoint ref)) .numbers
          (.ordinals (scope.nameOf viewpoint ref)))
  | object {ref : TypeRef} : field.kind = .struct → field.repeated = false →
      field.target = some ref →
      Binds scope viewpoint field
        (.of field (.named (scope.nameOf viewpoint ref))
          (.object (scope.nameOf viewpoint ref)) .object .itself)
  | objects {ref : TypeRef} : field.kind = .struct → field.repeated = true →
      field.mapKey = none → field.target = some ref →
      Binds scope viewpoint field
        (.of field (.list (.named (scope.nameOf viewpoint ref)))
          (.objects (scope.nameOf viewpoint ref)) .objects .itself)
  | map {ref : TypeRef} {key : Field} {keyType : JavaType} : scope.MapKey field key →
      field.target = some ref → (scope.singleType viewpoint key).outcome = .ok keyType →
      Binds scope viewpoint field
        (.of field (.map keyType (.named (scope.nameOf viewpoint ref)))
          (.objectMap (scope.nameOf viewpoint ref) (getterName key.name)) .objects .values)

theorem bindEnum_outcome_ok {binding : Output.Binding} (kind : field.kind = .enum) :
    (scope.bindEnum viewpoint field).outcome = .ok binding ↔
      scope.Binds viewpoint field binding := by
  unfold bindEnum
  simp only [Logged.bind_outcome_ok, referencedClass_outcome_ok]
  constructor
  · rintro ⟨_, ⟨ref, target, rfl⟩, chosen⟩
    split at chosen
    · next repeated =>
      cases chosen
      exact .constants kind repeated target
    · next single =>
      cases chosen
      exact .constant kind (by simpa using single) target
  · intro binds
    cases binds with
    | constant _ single target => exact ⟨_, ⟨_, target, rfl⟩, by simp [single]⟩
    | constants _ repeated target => exact ⟨_, ⟨_, target, rfl⟩, by simp [repeated]⟩
    | map key => simp [key.kind] at kind
    | _ => simp_all [Kind.isNarrow, Kind.isWide]

theorem bindStruct_outcome_ok {binding : Output.Binding} (kind : field.kind = .struct) :
    (scope.bindStruct viewpoint field).outcome = .ok binding ↔
      scope.Binds viewpoint field binding := by
  unfold bindStruct
  simp only [Logged.bind_outcome_ok, referencedClass_outcome_ok]
  constructor
  · rintro ⟨_, ⟨ref, target, rfl⟩, chosen⟩
    split at chosen
    · next single =>
      cases chosen
      exact .object kind (by simpa using single) target
    · next repeated =>
      have repeated : field.repeated = true := by simpa using repeated
      split at chosen
      · next unkeyed =>
        cases chosen
        exact .objects kind repeated unkeyed target
      · next name keyed =>
        simp only [Logged.bind_outcome_ok, Logged.outcome_ofExcept, Logged.outcome_pure,
          Except.ok.injEq] at chosen
        obtain ⟨key, found, keyType, typed, rfl⟩ := chosen
        exact .map ⟨kind, repeated, name, keyed, found⟩ target typed
  · intro binds
    cases binds with
    | object _ single target => exact ⟨_, ⟨_, target, rfl⟩, by simp [single]⟩
    | objects _ repeated unkeyed target =>
      exact ⟨_, ⟨_, target, rfl⟩, by simp [repeated, unkeyed]⟩
    | map key target typed =>
      obtain ⟨_, repeated, name, keyed, found⟩ := key
      refine ⟨_, ⟨_, target, rfl⟩, ?_⟩
      simp [repeated, keyed, found, typed, Logged.bind_outcome_ok]
    | _ => simp_all [Kind.isNarrow, Kind.isWide]

theorem binds_of_bind {binding : Output.Binding}
    (bound : (scope.bind viewpoint field).outcome = .ok binding) :
    scope.Binds viewpoint field binding := by
  unfold bind at bound
  cases kind : field.kind with
  | bool =>
    cases repeated : field.repeated <;> simp only [kind, repeated] at bound <;> cases bound
    · exact .flag kind repeated
    · exact .flags kind repeated
  | integer | int32 =>
    cases repeated : field.repeated <;> simp only [kind, repeated] at bound <;> cases bound
    · exact .narrow (by simp [kind, Kind.isNarrow]) repeated
    · exact .narrows (by simp [kind, Kind.isNarrow]) repeated
  | int64 | uint32 | uint64 | float32 | float64 =>
    cases repeated : field.repeated <;> simp only [kind, repeated] at bound <;> cases bound
    · exact .wide (by simp [kind, Kind.isWide]) repeated
    · exact .wides (by simp [kind, Kind.isWide]) repeated
  | string =>
    cases repeated : field.repeated <;> simp only [kind, repeated] at bound <;> cases bound
    · exact .text kind repeated
    · exact .texts kind repeated
  | bytes =>
    simp only [kind] at bound
    cases bound
    exact .blob kind
  | enum => exact (bindEnum_outcome_ok kind).mp (by simpa only [kind] using bound)
  | struct => exact (bindStruct_outcome_ok kind).mp (by simpa only [kind] using bound)

theorem bind_of_binds {binding : Output.Binding} (binds : scope.Binds viewpoint field binding) :
    (scope.bind viewpoint field).outcome = .ok binding := by
  unfold bind
  -- the kinds of references have forms of their own; any other kind leaves two forms
  cases kind : field.kind with
  | enum => exact (bindEnum_outcome_ok kind).mpr binds
  | struct => exact (bindStruct_outcome_ok kind).mpr binds
  | _ =>
    cases binds with
    | map key => simp [key.kind] at kind
    | _ => simp_all [Kind.isNarrow, Kind.isWide]

/-- A field is bound exactly in the forms of `Binds`. -/
theorem bind_outcome_ok {binding : Output.Binding} :
    (scope.bind viewpoint field).outcome = .ok binding ↔
      scope.Binds viewpoint field binding :=
  ⟨binds_of_bind, bind_of_binds⟩

/-- A field is written under its own tag, from its own member. -/
theorem Binds.write_eq {binding : Output.Binding} (binds : scope.Binds viewpoint field binding) :
    binding.write.tag = field.tag ∧ binding.write.member = field.name := by
  cases binds <;> exact ⟨rfl, rfl⟩

/-- The member of a field that is no collection has the type of a single value. -/
theorem Binds.singleType {binding : Output.Binding}
    (binds : scope.Binds viewpoint field binding) (single : field.repeated = false) :
    (scope.singleType viewpoint field).outcome = .ok binding.type := by
  rw [singleType_outcome_ok]
  cases binds with
  | flag kind | text kind | blob kind =>
    left
    rw [kind]
    rfl
  | narrow kind => exact .inl (Kind.isNarrow_iff.mp kind)
  | wide kind => exact .inl (Kind.isWide_iff.mp kind)
  | constant kind _ target =>
    exact .inr ⟨Kind.isReference_iff.mpr (.inl kind), _, target, rfl⟩
  | object kind _ target =>
    exact .inr ⟨Kind.isReference_iff.mpr (.inr kind), _, target, rfl⟩
  | map mapKey =>
    rw [mapKey.repeated] at single
    cases single
  | flags _ repeated | narrows _ repeated | wides _ repeated | texts _ repeated
  | constants _ repeated | objects _ repeated =>
    rw [repeated] at single
    cases single

/-- A bound field that asks for a key has one. -/
theorem Binds.exists_mapKey {binding : Output.Binding} {name : String}
    (binds : scope.Binds viewpoint field binding) (kind : field.kind = .struct)
    (repeated : field.repeated = true) (keyed : field.mapKey = some name) :
    ∃ key, scope.MapKey field key := by
  cases binds with
  | map mapKey => exact ⟨_, mapKey⟩
  | _ => simp_all [Kind.isNarrow, Kind.isWide]

theorem Binds.of_mapKey {binding : Output.Binding} {key : Field}
    (binds : scope.Binds viewpoint field binding) (mapKey : scope.MapKey field key) :
    ∃ ref keyType, field.target = some ref ∧
      (scope.singleType viewpoint key).outcome = .ok keyType ∧
      binding = .of field (.map keyType (.named (scope.nameOf viewpoint ref)))
        (.objectMap (scope.nameOf viewpoint ref) (getterName key.name)) .objects .values := by
  obtain ⟨kind, repeated, name, keyed, found⟩ := mapKey
  cases binds with
  | map other target typed =>
    cases other.unique ⟨kind, repeated, name, keyed, found⟩
    exact ⟨_, _, target, typed, rfl⟩
  | _ => simp_all [Kind.isNarrow, Kind.isWide]

/-! ## Classes of structs -/

/-- The field of `bound` passes its checks, and is bound as `bound` says. -/
structure Admits (scope : Scope) (viewpoint : String) (bound : BoundField) : Prop where
  scale : bound.field.checkScale = .ok ()
  binds : scope.Binds viewpoint bound.field bound.binding

theorem bindField_outcome_ok {bound : BoundField} :
    (scope.bindField viewpoint field).outcome = .ok bound ↔
      bound.field = field ∧ scope.Admits viewpoint bound := by
  unfold bindField
  simp only [Logged.bind_outcome_ok, Logged.outcome_ofExcept, Logged.outcome_pure, bind_outcome_ok,
    Except.ok.injEq]
  constructor
  · rintro ⟨_, scale, binding, binds, rfl⟩
    exact ⟨rfl, scale, binds⟩
  · rintro ⟨rfl, scale, binds⟩
    exact ⟨(), scale, bound.binding, binds, rfl⟩

/-- A struct has a class exactly if all its fields pass, and the class is made of them in
    declaration order. -/
theorem classOf_outcome_ok {struct : StructDecl} {decl : ClassDecl} :
    (scope.classOf viewpoint struct).outcome = .ok decl ↔
      ∃ fields : List BoundField, fields.map (·.field) = struct.fields ∧
        (∀ bound ∈ fields, scope.Admits viewpoint bound) ∧
        decl = structClass struct.name fields := by
  unfold classOf
  simp only [Logged.bind_outcome_ok, Logged.forEach_outcome_ok, Logged.outcome_pure,
    bindField_outcome_ok, Except.ok.injEq]
  constructor
  · rintro ⟨fields, pairs, rfl⟩
    -- declared and bound fields go in step, so both facts follow by induction along the pairs
    generalize struct.fields = declared at pairs ⊢
    refine ⟨fields, ?_, ?_, rfl⟩
    · induction pairs with
      | nil => rfl
      | cons head _ inductionHypothesis => rw [List.map_cons, inductionHypothesis, head.1]
    · induction pairs with
      | nil => simp
      | cons head _ inductionHypothesis =>
        intro bound member
        rcases List.mem_cons.mp member with rfl | member
        · exact head.2
        · exact inductionHypothesis bound member
  · rintro ⟨fields, named, admitted, rfl⟩
    refine ⟨fields, ?_, rfl⟩
    rw [← named, List.forall₂_map_left_iff, List.forall₂_same]
    exact fun bound member => ⟨rfl, admitted bound member⟩

end Scope

/-! ## Methods of classes -/

namespace Output

theorem BoundField.mem_accessors {bound : BoundField} {method : Method} :
    method ∈ bound.accessors ↔
      method = bound.getter ∨ method = bound.setter ∨ method = bound.presenceCheck ∨
        ∃ fixed, bound.field.fixedPoint = some fixed ∧
          (method = bound.fractionSetter fixed ∨ method = bound.fractionGetter fixed) := by
  unfold accessors
  cases bound.field.fixedPoint with
  | none => simp
  | some fixed => simp

/-- The methods of a class are the accessors of its fields and the two wire methods. -/
theorem mem_methods {name : String} {fields : List BoundField} {method : Method} :
    method ∈ (structClass name fields).methods ↔
      (∃ bound ∈ fields, method ∈ bound.accessors) ∨ method = decodeMethod fields ∨
        method = encodeMethod fields := by
  simp [structClass]

end Output

end WireSchema
