import WireSchema.Proofs.Rendering

/-! # What a binding depends on

A field is bound in a scope.  Little of the scope matters to it: the written name of the type that
the field refers to and, for a map, what the key is written as.  Little of the kind of a number
matters either: how wide it travels.

* `Kind.Interchangeable` — kinds of numbers that are bound alike.
* `Field.AlikeAsKey` — fields that key a map alike.
* `Scope.SeesAlike` — what of a scope a field is bound to.
* `bind_recast` and `bind_of_seesAlike` — that is all that the binding of a field depends on.
* `renderDeclaration_congr` — a declaration depends on the bindings of its fields, and on its place.
-/

namespace WireSchema

open Output (JavaType)

/-! ## Kinds -/

/-- Kinds that may stand for each other: they are the same, or both of them are kinds of 32-bit
    integers, or both of them are kinds of 64-bit numbers. -/
inductive Kind.Interchangeable : Kind → Kind → Prop where
  | same {kind : Kind} : Interchangeable kind kind
  | narrow {kind other : Kind} : kind ∈ [integer, int32] → other ∈ [integer, int32] →
      Interchangeable kind other
  | wide {kind other : Kind} : kind ∈ [int64, uint32, uint64, float32, float64] →
      other ∈ [int64, uint32, uint64, float32, float64] → Interchangeable kind other

namespace Kind

variable {kind other : Kind}

theorem isNarrow_iff_mem : kind.isNarrow ↔ kind ∈ [integer, int32] := by
  cases kind <;> decide

theorem isWide_iff_mem : kind.isWide ↔ kind ∈ [int64, uint32, uint64, float32, float64] := by
  cases kind <;> decide

namespace Interchangeable

theorem basicType?_eq (alike : kind.Interchangeable other) :
    other.basicType? = kind.basicType? := by
  cases alike with
  | same => rfl
  | narrow first second =>
    rw [isNarrow_iff.mp (isNarrow_iff_mem.mpr first), isNarrow_iff.mp (isNarrow_iff_mem.mpr second)]
  | wide first second =>
    rw [isWide_iff.mp (isWide_iff_mem.mpr first), isWide_iff.mp (isWide_iff_mem.mpr second)]

theorem isNumeric_eq (alike : kind.Interchangeable other) : other.isNumeric = kind.isNumeric := by
  cases alike with
  | same => rfl
  | narrow first second =>
    simp only [isNumeric, isNarrow_iff_mem.mpr first, isNarrow_iff_mem.mpr second, Bool.true_or]
  | wide first second =>
    simp only [isNumeric, isWide_iff_mem.mpr first, isWide_iff_mem.mpr second, Bool.or_true]

/-- Kinds that refer to declarations stand for themselves alone. -/
theorem eq_of_isReference (alike : kind.Interchangeable other) (reference : kind.isReference) :
    other = kind := by
  rcases isReference_iff.mp reference with rfl | rfl
  · cases alike with
    | same => rfl
    | narrow first | wide first => simp at first
  · cases alike with
    | same => rfl
    | narrow first | wide first => simp at first

end Interchangeable

end Kind

/-! ## Fields -/

namespace Field

/-- Two fields that are one to the maps that they key, whatever their tags and scales are. -/
structure AlikeAsKey (field other : Field) : Prop where
  name : other.name = field.name
  kind : field.kind.Interchangeable other.kind
  repeated : other.repeated = field.repeated
  mapKey : other.mapKey = field.mapKey
  target : other.target = field.target

theorem AlikeAsKey.refl (field : Field) : field.AlikeAsKey field :=
  ⟨rfl, .same, rfl, rfl, rfl⟩

/-- The field is a map, with elements of the type that the reference leads to, and keys from the
    field of the given name. -/
structure IsMap (field : Field) (ref : TypeRef) (key : String) : Prop where
  kind : field.kind = .struct
  repeated : field.repeated = true
  target : field.target = some ref
  mapKey : field.mapKey = some key

end Field

namespace Scope

variable {scope other : Scope} {viewpoint key : String} {field : Field} {ref : TypeRef}

theorem bind_of_isNarrow (narrow : field.kind.isNarrow) :
    scope.bind viewpoint field =
      pure (if field.repeated then .of field (.array .int) .narrowNumbers .numbers .itself
        else .of field .int (.narrowNumber field.tag) .number .itself) := by
  unfold bind
  cases kind : field.kind with
  | integer | int32 => cases field.repeated <;> rfl
  | _ =>
    rw [kind] at narrow
    cases narrow

theorem bind_of_isWide (wide : field.kind.isWide) :
    scope.bind viewpoint field =
      pure (if field.repeated then .of field (.array .long) .numbers .numbers .itself
        else .of field .long (.number field.tag) .number .itself) := by
  unfold bind
  cases kind : field.kind with
  | int64 | uint32 | uint64 | float32 | float64 => cases field.repeated <;> rfl
  | _ =>
    rw [kind] at wide
    cases wide

/-- A number is bound alike by either of two interchangeable kinds. -/
theorem bind_recast {kind : Kind} (alike : field.kind.Interchangeable kind) :
    scope.bind viewpoint { field with kind := kind } = scope.bind viewpoint field := by
  generalize given : field.kind = original at alike
  cases alike with
  | same =>
    subst given
    rfl
  | narrow first second =>
    rw [bind_of_isNarrow (Kind.isNarrow_iff_mem.mpr second),
      bind_of_isNarrow (Kind.isNarrow_iff_mem.mpr (given ▸ first))]
    rfl
  | wide first second =>
    rw [bind_of_isWide (Kind.isWide_iff_mem.mpr second),
      bind_of_isWide (Kind.isWide_iff_mem.mpr (given ▸ first))]
    rfl

/-! ## Names and keys -/

/-- In both scopes the reference leads nowhere, or to types of one name in one namespace. -/
def SameName (scope other : Scope) (ref : TypeRef) : Prop :=
  Option.Rel (fun declared declared' => declared'.name = declared.name ∧
      other.placementOfDeclared declared' = scope.placementOfDeclared declared)
    (scope.resolve ref) (other.resolve ref)

/-- In both scopes the reference leads to no struct, or to structs with fields of the given name
    that are alike as keys, or with no such field. -/
def SameKey (scope other : Scope) (ref : TypeRef) (key : String) : Prop :=
  Option.Rel (fun struct struct' =>
      Option.Rel Field.AlikeAsKey (struct.field? key) (struct'.field? key))
    (scope.struct? ref) (other.struct? ref)

theorem className_of_sameName {ε : Type} (same : scope.SameName other ref) :
    (other.className viewpoint ref : Logged ε String) = scope.className viewpoint ref := by
  unfold className
  unfold SameName at same
  generalize scope.resolve ref = found at same ⊢
  generalize other.resolve ref = found' at same ⊢
  cases same with
  | none => rfl
  | some labels => simp only [labels.1, labels.2]

theorem referencedClass_of_sameName {field' : Field} (name : field'.name = field.name)
    (kind : field'.kind = field.kind) (target : field'.target = field.target)
    (same : ∀ ref, field.target = some ref → scope.SameName other ref) :
    other.referencedClass viewpoint field' = scope.referencedClass viewpoint field := by
  unfold referencedClass
  rw [name, kind, target]
  cases leads : field.target with
  | none => rfl
  | some ref => exact className_of_sameName (same ref leads)

theorem singleType_of_basicType {type : JavaType} (basic : field.kind.basicType? = some type) :
    scope.singleType viewpoint field = pure type := by
  unfold singleType
  cases kind : field.kind with
  | enum | struct =>
    rw [kind] at basic
    cases basic
  | _ =>
    rw [kind] at basic
    cases basic
    rfl

theorem singleType_of_isReference_eq (reference : field.kind.isReference) :
    scope.singleType viewpoint field = do
      let name ← scope.referencedClass viewpoint field
      return .named name := by
  unfold singleType
  rcases Kind.isReference_iff.mp reference with kind | kind
  · simp only [kind]
  · simp only [kind]

/-- Fields that are alike as keys are written with one type. -/
theorem singleType_of_alike {field' : Field} (alike : field.AlikeAsKey field')
    (same : ∀ ref, field.kind.isReference → field.target = some ref → scope.SameName other ref) :
    other.singleType viewpoint field' = scope.singleType viewpoint field := by
  cases basic : field.kind.basicType? with
  | some type =>
    rw [singleType_of_basicType basic,
      singleType_of_basicType (alike.kind.basicType?_eq.trans basic)]
  | none =>
    have reference := Kind.basicType?_eq_none.mp basic
    have kind := alike.kind.eq_of_isReference reference
    rw [singleType_of_isReference_eq reference, singleType_of_isReference_eq (kind ▸ reference),
      referencedClass_of_sameName alike.name kind alike.target fun ref => same ref reference]

/-- Two scopes find keys that are alike, or fail to find them for one reason. -/
theorem mapKeyField_cases (same : ∀ ref, field.target = some ref → scope.SameKey other ref key) :
    (∃ e, scope.mapKeyField field key = .error e ∧ other.mapKeyField field key = .error e) ∨
      ∃ found found', scope.mapKeyField field key = .ok found ∧
        other.mapKeyField field key = .ok found' ∧ found.AlikeAsKey found' := by
  unfold mapKeyField
  cases target : field.target with
  | none => exact .inl ⟨_, rfl, rfl⟩
  | some ref =>
    have structs := same ref target
    unfold SameKey at structs
    dsimp only
    generalize scope.struct? ref = struct at structs ⊢
    generalize other.struct? ref = struct' at structs ⊢
    cases structs with
    | none => exact .inl ⟨_, rfl, rfl⟩
    | @some struct struct' keys =>
      dsimp only
      generalize struct.field? key = found at keys ⊢
      generalize struct'.field? key = found' at keys ⊢
      cases keys with
      | none => exact .inl ⟨_, rfl, rfl⟩
      | @some found found' alike =>
        simp only [alike.repeated, alike.mapKey]
        split
        · exact .inl ⟨_, rfl, rfl⟩
        · exact .inr ⟨found, found', rfl, rfl, alike⟩

/-! ## Bindings -/

/-- What of a scope a field is bound to is the same in another one. -/
structure SeesAlike (scope other : Scope) (field : Field) : Prop where
  name : ∀ ref, field.kind.isReference → field.target = some ref → scope.SameName other ref
  key : ∀ ref name, field.IsMap ref name → scope.SameKey other ref name
  keyName : ∀ key ref, scope.MapKey field key → key.kind.isReference → key.target = some ref →
    scope.SameName other ref

theorem SeesAlike.referencedClass (alike : scope.SeesAlike other field)
    (reference : field.kind.isReference) :
    other.referencedClass viewpoint field = scope.referencedClass viewpoint field :=
  referencedClass_of_sameName rfl rfl rfl fun ref => alike.name ref reference

theorem bindStruct_of_seesAlike (kind : field.kind = .struct)
    (alike : scope.SeesAlike other field) :
    other.bindStruct viewpoint field = scope.bindStruct viewpoint field := by
  unfold bindStruct
  refine Logged.bind_congr (alike.referencedClass (Kind.isReference_iff.mpr (.inr kind)))
    fun name _ => ?_
  cases repeated : field.repeated with
  | false => simp only [Bool.not_false, if_true]
  | true =>
    cases keyed : field.mapKey with
    | none => rfl
    | some key =>
      obtain ⟨e, fails, fails'⟩ | ⟨found, found', finds, finds', keys⟩ := mapKeyField_cases
        fun ref target => alike.key ref key ⟨kind, repeated, target, keyed⟩
      · simp only [fails, fails', Logged.ofExcept_error_bind]
      · -- both keys are written with one type, and they have one getter
        have mapKey : scope.MapKey field found := ⟨kind, repeated, key, keyed, finds⟩
        have types : other.singleType viewpoint found' = scope.singleType viewpoint found :=
          singleType_of_alike keys fun ref => alike.keyName found ref mapKey
        simp only [finds, finds', Logged.ofExcept_ok_bind, types, keys.name]

theorem bind_of_seesAlike (alike : scope.SeesAlike other field) :
    other.bind viewpoint field = scope.bind viewpoint field := by
  unfold bind
  cases kind : field.kind with
  | enum =>
    dsimp only
    unfold bindEnum
    rw [alike.referencedClass (Kind.isReference_iff.mpr (.inl kind))]
  | struct => exact bindStruct_of_seesAlike kind alike
  | _ => rfl

/-! ## Declarations -/

theorem classOf_congr {struct : StructDecl}
    (same : ∀ field ∈ struct.fields, other.bind viewpoint field = scope.bind viewpoint field) :
    other.classOf viewpoint struct = scope.classOf viewpoint struct := by
  have fields : Logged.forEach (other.bindField viewpoint) struct.fields =
      Logged.forEach (scope.bindField viewpoint) struct.fields := by
    apply Logged.forEach_congr
    intro field member
    simp only [bindField, same field member]
  simp only [classOf, fields]

/-- A declaration is rendered alike where it is placed alike, and where its fields are bound
    alike. -/
theorem renderDeclaration_congr {module module' : Module} {declaration : Declaration}
    {banner : String}
    (placed : other.placementOf module' declaration = scope.placementOf module declaration)
    (same : ∀ struct, declaration = .struct struct → ∀ field ∈ struct.fields,
      other.bind (scope.placementOf module declaration) field =
        scope.bind (scope.placementOf module declaration) field) :
    other.renderDeclaration banner module' declaration =
      scope.renderDeclaration banner module declaration := by
  have source : other.sourceOf banner (scope.placementOf module declaration) declaration =
      scope.sourceOf banner (scope.placementOf module declaration) declaration := by
    cases declaration with
    | enum decl => rfl
    | struct decl => simp only [sourceOf, structSource, classOf_congr (same decl rfl)]
  simp only [renderDeclaration, placed, source]

end Scope

end WireSchema
