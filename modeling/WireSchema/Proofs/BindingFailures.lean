import WireSchema.Proofs.Counterparts

/-! # Why a field is not bound

A field is bound unless it refers to nothing, or is a map without a usable key.  The causes are
listed here apart from the search for them, one constructor each, and each only where no other one
comes before it.

* `Scope.Refuses` — the causes, with the error that each is reported as.
* `bind_outcome_error` — they are the only ones, whatever the declarations refer to.
* `Scope.bindBy` — the binding with the key of a map bound by any other means.
* `bind_fails_iff` — a field fails exactly for a cause, and a key is never bound as a map itself.
-/

namespace WireSchema

open Output (Binding JavaType getterName)

/-! ## Causes -/

/-- A field that keys no map: it is repeated, or it names a key itself. -/
def Field.IsCollection (field : Field) : Prop :=
  field.repeated = true ∨ field.mapKey ≠ none

namespace Scope

/-- Why a field cannot be bound. -/
inductive Refuses (scope : Scope) (field : Field) : FieldError → Prop where
  | missingReference : field.kind.isReference → field.target = none →
      Refuses scope field (.missingReference field.name field.kind)
  | unknownType {ref : TypeRef} {name : String} : field.IsMap ref name →
      (∀ home struct, scope.resolve ref ≠ some ⟨home, .struct struct⟩) →
      Refuses scope field (.unknownType ref.name field.name)
  | unknownMapKey {ref : TypeRef} {name : String} {home : Module} {struct : StructDecl} :
      field.IsMap ref name → scope.resolve ref = some ⟨home, .struct struct⟩ →
      struct.field? name = none →
      Refuses scope field (.unknownMapKey name ref.name field.name)
  | invalidMapKey {ref : TypeRef} {name : String} {home : Module} {struct : StructDecl}
      {key : Field} :
      field.IsMap ref name → scope.resolve ref = some ⟨home, .struct struct⟩ →
      struct.field? name = some key → key.IsCollection →
      Refuses scope field (.invalidMapKey name ref.name field.name)
  | missingKeyReference {ref : TypeRef} {name : String} {home : Module} {struct : StructDecl}
      {key : Field} :
      field.IsMap ref name → scope.resolve ref = some ⟨home, .struct struct⟩ →
      struct.field? name = some key → ¬ key.IsCollection → key.kind.isReference →
      key.target = none →
      Refuses scope field (.missingReference key.name key.kind)

variable {scope : Scope} {viewpoint : String} {field : Field} {ref : TypeRef} {name : String}
  {e : FieldError}

/-! ## Steps -/

theorem referencedClass_outcome_error :
    (scope.referencedClass viewpoint field).outcome = .error e ↔
      field.target = none ∧ e = .missingReference field.name field.kind := by
  unfold referencedClass
  cases field.target with
  | none => simp [eq_comm]
  | some ref => simp [className_outcome]

theorem singleType_outcome_error :
    (scope.singleType viewpoint field).outcome = .error e ↔
      field.kind.isReference ∧ field.target = none ∧
        e = .missingReference field.name field.kind := by
  unfold singleType
  cases kind : field.kind <;>
    simp [Kind.isReference, Logged.bind_outcome_error, referencedClass_outcome_error, kind]

theorem struct?_eq_none :
    scope.struct? ref = none ↔ ∀ home struct, scope.resolve ref ≠ some ⟨home, .struct struct⟩ := by
  rw [Option.eq_none_iff_forall_ne_some]
  constructor
  · intro none home struct leads
    exact none struct (struct?_eq_some.mpr ⟨home, leads⟩)
  · intro none struct found
    obtain ⟨home, leads⟩ := struct?_eq_some.mp found
    exact none home struct leads

theorem isCollection_iff : field.IsCollection ↔ (field.repeated || field.mapKey.isSome) = true := by
  simp [Field.IsCollection, Option.ne_none_iff_isSome]

/-- The search for a key ends with one of three errors, or with a field that is no collection. -/
theorem refuses_of_mapKeyField (isMap : field.IsMap ref name)
    (fails : scope.mapKeyField field name = .error e) : scope.Refuses field e := by
  unfold mapKeyField at fails
  rw [isMap.target] at fails
  dsimp only at fails
  cases found : scope.struct? ref with
  | none =>
    rw [found] at fails
    cases fails
    exact .unknownType isMap (struct?_eq_none.mp found)
  | some struct =>
    rw [found] at fails
    dsimp only at fails
    obtain ⟨home, leads⟩ := struct?_eq_some.mp found
    cases keyed : struct.field? name with
    | none =>
      rw [keyed] at fails
      cases fails
      exact .unknownMapKey isMap leads keyed
    | some key =>
      rw [keyed] at fails
      dsimp only at fails
      split at fails
      · next collection =>
        cases fails
        exact .invalidMapKey isMap leads keyed (isCollection_iff.mpr collection)
      · cases fails

/-- A map fails with its key: there is none, or its type is unknown. -/
theorem bind_outcome_error_of_isMap (isMap : field.IsMap ref name) :
    (scope.bind viewpoint field).outcome = .error e ↔
      scope.mapKeyField field name = .error e ∨
        ∃ key, scope.mapKeyField field name = .ok key ∧
          (scope.singleType viewpoint key).outcome = .error e := by
  have named : ∃ className, (scope.referencedClass viewpoint field).outcome = .ok className :=
    ⟨_, referencedClass_outcome_ok.mpr ⟨ref, isMap.target, rfl⟩⟩
  obtain ⟨className, named⟩ := named
  simp only [bind, isMap.kind, bindStruct, Logged.bind_outcome_of_ok named, isMap.repeated,
    isMap.mapKey, Bool.not_true, Bool.false_eq_true, if_false, Logged.bind_outcome_error,
    Logged.outcome_ofExcept, Logged.outcome_pure, reduceCtorEq, and_false, exists_false, or_false]

/-- Any other field fails only for want of a reference. -/
theorem bind_outcome_error_of_not_isMap (noMap : ∀ ref name, ¬ field.IsMap ref name) :
    (scope.bind viewpoint field).outcome = .error e ↔
      field.kind.isReference ∧ field.target = none ∧
        e = .missingReference field.name field.kind := by
  unfold bind
  cases kind : field.kind with
  | enum =>
    simp only [bindEnum, Logged.bind_outcome_error, referencedClass_outcome_error, kind,
      Kind.isReference, true_and]
    constructor
    · rintro (missing | ⟨_, _, chosen⟩)
      · exact missing
      · split at chosen <;> cases chosen
    · exact .inl
  | struct =>
    simp only [bindStruct, Logged.bind_outcome_error, referencedClass_outcome_error, kind,
      Kind.isReference, true_and]
    constructor
    · rintro (missing | ⟨_, named, chosen⟩)
      · exact missing
      · obtain ⟨ref, target, _⟩ := referencedClass_outcome_ok.mp named
        split at chosen
        · cases chosen
        · next repeated =>
          split at chosen
          · cases chosen
          · next name keyed =>
            exact absurd ⟨kind, by simpa using repeated, target, keyed⟩ (noMap ref name)
    · exact .inl
  | _ => cases field.repeated <;> simp [Kind.isReference]

theorem refuses_of_isMap (isMap : field.IsMap ref name)
    (fails : (scope.bind viewpoint field).outcome = .error e) : scope.Refuses field e := by
  rcases (bind_outcome_error_of_isMap isMap).mp fails with noKey | ⟨key, found, untyped⟩
  · exact refuses_of_mapKeyField isMap noKey
  · obtain ⟨ref', struct, target, isStruct, keyed, single, unkeyed⟩ := mapKeyField_ok.mp found
    cases isMap.target.symm.trans target
    obtain ⟨home, leads⟩ := struct?_eq_some.mp isStruct
    obtain ⟨reference, missing, rfl⟩ := singleType_outcome_error.mp untyped
    have plain : ¬ key.IsCollection := by simp [Field.IsCollection, single, unkeyed]
    exact .missingKeyReference isMap leads keyed plain reference missing

/-- A field is not bound exactly if there is a cause, which is what is reported. -/
theorem bind_outcome_error :
    (scope.bind viewpoint field).outcome = .error e ↔ scope.Refuses field e := by
  constructor
  · intro fails
    -- a map fails over its key, and any other field only for want of a reference
    by_cases isMap : ∃ ref name, field.IsMap ref name
    · obtain ⟨ref, name, isMap⟩ := isMap
      exact refuses_of_isMap isMap fails
    · simp only [not_exists] at isMap
      obtain ⟨reference, missing, rfl⟩ := (bind_outcome_error_of_not_isMap isMap).mp fails
      exact .missingReference reference missing
  · intro refuses
    -- each cause excludes those before it, so that the search for the key gets to the step it names
    cases refuses with
    | missingReference reference missing =>
      have noMap : ∀ ref name, ¬ field.IsMap ref name := by
        intro ref name isMap
        cases missing.symm.trans isMap.target
      exact (bind_outcome_error_of_not_isMap noMap).mpr ⟨reference, missing, rfl⟩
    | unknownType isMap none =>
      apply (bind_outcome_error_of_isMap isMap).mpr
      simp only [mapKeyField, isMap.target, struct?_eq_none.mpr none, true_or]
    | unknownMapKey isMap leads keyed =>
      apply (bind_outcome_error_of_isMap isMap).mpr
      simp only [mapKeyField, isMap.target, struct?_eq_some.mpr ⟨_, leads⟩, keyed, true_or]
    | invalidMapKey isMap leads keyed collection =>
      apply (bind_outcome_error_of_isMap isMap).mpr
      simp only [mapKeyField, isMap.target, struct?_eq_some.mpr ⟨_, leads⟩, keyed,
        isCollection_iff.mp collection, if_true, true_or]
    | missingKeyReference isMap leads keyed plain reference missing =>
      apply (bind_outcome_error_of_isMap isMap).mpr
      right
      rw [Field.IsCollection, not_or, Bool.not_eq_true, not_not] at plain
      have found := mapKeyField_ok.mpr
        ⟨_, _, isMap.target, struct?_eq_some.mpr ⟨_, leads⟩, keyed, plain⟩
      exact ⟨_, found, singleType_outcome_error.mpr ⟨reference, missing, rfl⟩⟩

/-! ## Keys -/

/-- The binding of a field, where the field that keys a map is bound by `bindKey`. -/
def bindBy (scope : Scope) (viewpoint : String) (bindKey : Field → Logged FieldError Binding)
    (field : Field) : Logged FieldError Binding :=
  match field.kind, field.repeated, field.mapKey with
  | .struct, true, some name => do
    let className ← scope.referencedClass viewpoint field
    let key ← .ofExcept (scope.mapKeyField field name)
    let bound ← bindKey key
    return .of field (.map bound.type (.named className))
      (.objectMap className (getterName key.name)) .objects .values
  | _, _, _ => scope.bind viewpoint field

variable {bindKey : Field → Logged FieldError Binding}

/-- A single value asks for no key. -/
theorem bindBy_of_single (single : field.repeated = false) :
    scope.bindBy viewpoint bindKey field = scope.bind viewpoint field := by
  unfold bindBy
  split
  · next repeated _ =>
    rw [single] at repeated
    cases repeated
  · rfl

/-- The type of a single value is that of its binding. -/
theorem singleType_eq_bind (single : field.repeated = false) :
    scope.singleType viewpoint field = do
      let bound ← scope.bind viewpoint field
      return bound.type := by
  unfold singleType bind
  cases kind : field.kind with
  | enum =>
    simp only [bindEnum, single, Logged.bind_assoc, Logged.pure_bind, Bool.false_eq_true, if_false]
    rfl
  | struct =>
    simp only [bindStruct, single, Logged.bind_assoc, Logged.pure_bind, Bool.not_false, if_true]
    rfl
  | _ =>
    simp only [single, Bool.false_eq_true, if_false, Logged.pure_bind]
    rfl

theorem MapKey.single {key : Field} (mapKey : scope.MapKey field key) : key.repeated = false := by
  obtain ⟨_, _, _, _, _, _, _, single⟩ := mapKey.keyOfStruct
  exact single

theorem bindBy_congr {bindKey' : Field → Logged FieldError Binding}
    (same : ∀ key, scope.MapKey field key → bindKey key = bindKey' key) :
    scope.bindBy viewpoint bindKey field = scope.bindBy viewpoint bindKey' field := by
  unfold bindBy
  split
  · next name kind repeated keyed =>
    -- only what the search ends in is ever bound
    refine Logged.bind_congr rfl fun className _ => Logged.bind_congr rfl fun key found => ?_
    rw [same key ⟨kind, repeated, name, keyed, found⟩]
  · rfl

/-- The key of a map is bound like any other field. -/
theorem bindBy_bind :
    scope.bindBy viewpoint (scope.bind viewpoint) field = scope.bind viewpoint field := by
  unfold bindBy
  split
  · next name kind repeated keyed =>
    simp only [bind, kind, bindStruct, repeated, keyed, Bool.not_true, Bool.false_eq_true, if_false]
    refine Logged.bind_congr rfl fun className _ => Logged.bind_congr rfl fun key found => ?_
    have mapKey : scope.MapKey field key := ⟨kind, repeated, name, keyed, found⟩
    rw [singleType_eq_bind mapKey.single, Logged.bind_assoc]
    rfl
  · rfl

theorem bind_of_mapKey_unused (unused : field.kind ≠ .struct ∨ field.repeated = false)
    (mapKey : Option String) :
    scope.bind viewpoint { field with mapKey := mapKey } = scope.bind viewpoint field := by
  obtain ⟨_, _, kind, repeated, _, _, _⟩ := field
  cases kind with
  | struct =>
    have single : repeated = false := unused.resolve_left (absurd rfl)
    subst single
    rfl
  | _ => rfl

/-- A field is not bound exactly for one of the causes, with the error of that cause, and bound if
    there is none.  The name of a key matters to no field but a map of structs.  The key of a map
    is bound by the same means as any field, and is no map itself, so that what its own key would be
    bound to does not matter. -/
theorem bind_fails_iff (scope : Scope) (viewpoint : String) (field : Field) :
    (∀ e, (scope.bind viewpoint field).outcome = .error e ↔ scope.Refuses field e) ∧
      ((∃ binding, (scope.bind viewpoint field).outcome = .ok binding) ↔
        ∀ e, ¬ scope.Refuses field e) ∧
      (field.kind ≠ .struct ∨ field.repeated = false → ∀ mapKey,
        scope.bind viewpoint { field with mapKey := mapKey } = scope.bind viewpoint field) ∧
      scope.bindBy viewpoint (scope.bind viewpoint) field = scope.bind viewpoint field ∧
      (∀ key, scope.MapKey field key → ∀ ref name, ¬ key.IsMap ref name) ∧
      ∀ bindKey, scope.bindBy viewpoint (scope.bindBy viewpoint bindKey) field =
        scope.bind viewpoint field := by
  refine ⟨fun e => bind_outcome_error, ?_, bind_of_mapKey_unused, bindBy_bind, ?_, ?_⟩
  · have causes (e : FieldError) : scope.Refuses field e ↔
        (scope.bind viewpoint field).outcome = .error e := bind_outcome_error.symm
    simp only [causes]
    cases (scope.bind viewpoint field).outcome with
    | error e => simp
    | ok binding => simp
  · intro key mapKey ref name isMap
    cases mapKey.single.symm.trans isMap.repeated
  · intro bindKey
    -- a key is a single value, and single values are bound without a key
    rw [bindBy_congr fun key mapKey => bindBy_of_single mapKey.single, bindBy_bind]

end Scope

namespace Sample

/-- The children of a node, keyed by their own children. -/
def kids : Field := (Field.structRef "kids" 1 "Node").keyedBy "kids"

def tree : Module := ⟨"tree.sp", "tree", [⟨"Node", [kids], .blank⟩], []⟩

end Sample

open Sample in
/-- A node refers to itself, and its key would be a map again. -/
theorem bind_fails_iff_tree :
    (Scope.ofModule [tree] .default tree).Refuses kids (.invalidMapKey "kids" "Node" "kids") ∧
      ((Scope.ofModule [tree] .default tree).bind "tree" kids).outcome =
        .error (.invalidMapKey "kids" "Node" "kids") := by
  have fails : ((Scope.ofModule [tree] .default tree).bind "tree" kids).outcome =
      .error (.invalidMapKey "kids" "Node" "kids") := rfl
  have causes := (Scope.bind_fails_iff (.ofModule [tree] .default tree) "tree" kids).1
  exact ⟨(causes _).mp fails, fails⟩

end WireSchema
