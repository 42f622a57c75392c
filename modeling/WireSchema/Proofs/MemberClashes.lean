import Mathlib.Data.List.Nodup
import Mathlib.Data.List.Pairwise
import WireSchema.Proofs.FieldChecks

/-! # Members and methods with one name

A generated class has a member for each field and one for the presence bitmap, and its methods are
named after the fields.  What the fields are named decides whether two of them get in each other's
way.

* `Method.signature` — what two methods of a class must not have in common.
* `Field.stems` — what the names of a field's accessors end in.
* `disjoint_signatures_iff` — the accessors of two fields have nothing in common if their stems
  have not.
* `members_distinct_iff` — the names of fields that give a class without clashes.
-/

namespace WireSchema

open Output (BoundField ClassDecl Method decodeMethod encodeMethod fractionGetterName
  fractionSetterName getterName presenceMember presenceName setterName structClass)

/-- What tells the methods of a class apart: the name, and the types of the parameters. -/
def Output.Method.signature (method : Method) : String × List String :=
  (method.name, method.parameters.map fun parameter => parameter.type.spelling)

/-- What the names of a field's accessors end in.  A scale brings accessors with an end of their
    own. -/
def Field.stems (field : Field) : List String :=
  Text.capitalize field.name ::
    (field.fixedPoint.toList.map fun _ => Text.capitalize field.name ++ "Ext")

theorem Field.mem_stems {field : Field} {stem : String} : stem ∈ field.stems ↔
    stem = Text.capitalize field.name ∨
      field.fixedPoint.isSome ∧ stem = Text.capitalize field.name ++ "Ext" := by
  cases scaled : field.fixedPoint <;> simp [stems, scaled]

/-- A text is not itself with something behind. -/
theorem ne_append_ext (text : String) : text ≠ text ++ "Ext" := by
  intro same
  have length := congrArg (fun text => text.toList.length) same
  simp at length

theorem Field.nodup_stems (field : Field) : field.stems.Nodup := by
  cases scaled : field.fixedPoint <;> simp [stems, scaled, ne_append_ext]

/-! ## Accessors -/

namespace Output

/-- What the names of accessors start with. -/
def accessorStarts : List String := ["get", "set", "isSet"]

variable {bound other : BoundField} {method : Method}

/-- The start of an accessor's name does not run into what follows. -/
theorem accessorStarts_append_inj {start start' stem stem' : String}
    (listed : start ∈ accessorStarts) (listed' : start' ∈ accessorStarts)
    (same : start ++ stem = start' ++ stem') : start = start' ∧ stem = stem' := by
  simp only [accessorStarts, List.mem_cons, List.not_mem_nil, or_false] at listed listed'
  rcases listed with rfl | rfl | rfl <;> rcases listed' with rfl | rfl | rfl <;>
    simp_all [← String.toList_inj]

/-- An accessor is named by a start and a stem. -/
theorem exists_stem (accessor : method ∈ bound.accessors) :
    ∃ start ∈ accessorStarts, ∃ stem ∈ bound.field.stems, method.name = start ++ stem := by
  obtain rfl | rfl | rfl | ⟨fixed, scaled, rfl | rfl⟩ := BoundField.mem_accessors.mp accessor
  · exact ⟨"get", by decide, _, Field.mem_stems.mpr (.inl rfl), rfl⟩
  · exact ⟨"set", by decide, _, Field.mem_stems.mpr (.inl rfl), rfl⟩
  · exact ⟨"isSet", by decide, _, Field.mem_stems.mpr (.inl rfl), rfl⟩
  · refine ⟨"set", by decide, _, Field.mem_stems.mpr (.inr ⟨by simp [scaled], rfl⟩), ?_⟩
    exact String.append_assoc
  · refine ⟨"get", by decide, _, Field.mem_stems.mpr (.inr ⟨by simp [scaled], rfl⟩), ?_⟩
    exact String.append_assoc

/-- Each stem of a field has a getter without parameters. -/
theorem getter_of_stem {stem : String} (member : stem ∈ bound.field.stems) :
    ("get" ++ stem, []) ∈ bound.accessors.map Method.signature := by
  rw [List.mem_map]
  rcases Field.mem_stems.mp member with rfl | ⟨isSome, rfl⟩
  · exact ⟨bound.getter, BoundField.mem_accessors.mpr (.inl rfl), rfl⟩
  · obtain ⟨fixed, scaled⟩ := Option.isSome_iff_exists.mp isSome
    refine ⟨bound.fractionGetter fixed,
      BoundField.mem_accessors.mpr (.inr (.inr (.inr ⟨fixed, scaled, .inr rfl⟩))), ?_⟩
    exact Prod.ext String.append_assoc rfl

theorem disjoint_signatures_iff :
    (bound.accessors.map Method.signature).Disjoint (other.accessors.map Method.signature) ↔
      bound.field.stems.Disjoint other.field.stems := by
  constructor
  · intro disjoint stem member member'
    exact disjoint (getter_of_stem member) (getter_of_stem member')
  · intro disjoint signature listed listed'
    obtain ⟨method, accessor, rfl⟩ := List.mem_map.mp listed
    obtain ⟨method', accessor', same⟩ := List.mem_map.mp listed'
    obtain ⟨start, starts, stem, member, named⟩ := exists_stem accessor
    obtain ⟨start', starts', stem', member', named'⟩ := exists_stem accessor'
    have names : method'.name = method.name := congrArg Prod.fst same
    rw [named, named'] at names
    obtain ⟨_, rfl⟩ := accessorStarts_append_inj starts' starts names
    exact disjoint member member'

/-- The names of all accessors that a field may have, each with its start apart. -/
def accessorParts (stem : String) : List (String × String) :=
  [("get", stem), ("set", stem), ("isSet", stem), ("set", stem ++ "Ext"), ("get", stem ++ "Ext")]

theorem accessorNames_sublist (bound : BoundField) :
    (bound.accessors.map Method.name).Sublist
      ((accessorParts (Text.capitalize bound.field.name)).map fun part => part.1 ++ part.2) := by
  unfold BoundField.accessors
  cases bound.field.fixedPoint with
  | none => exact .cons_cons _ (.cons_cons _ (.cons_cons _ (List.nil_sublist _)))
  | some fixed =>
    simp [accessorParts, BoundField.getter, BoundField.setter, BoundField.presenceCheck,
      BoundField.fractionSetter, BoundField.fractionGetter, getterName, setterName, presenceName,
      fractionGetterName, fractionSetterName, String.append_assoc]

/-- The accessors of one field do not clash. -/
theorem nodup_signatures (bound : BoundField) : (bound.accessors.map Method.signature).Nodup := by
  generalize stem : Text.capitalize bound.field.name = text
  have parts : (accessorParts text).Nodup := by simp [accessorParts, ne_append_ext text]
  have starts : ∀ part ∈ accessorParts text, part.1 ∈ accessorStarts := by
    simp [accessorParts, accessorStarts]
  have names : ((accessorParts text).map fun part => part.1 ++ part.2).Nodup := by
    refine parts.map_on fun part listed part' listed' same => ?_
    obtain ⟨start, stem⟩ :=
      accessorStarts_append_inj (starts part listed) (starts part' listed') same
    exact Prod.ext start stem
  subst stem
  refine .of_map Prod.fst ?_
  rw [List.map_map]
  exact names.sublist (accessorNames_sublist bound)

/-- The wire methods have names of their own. -/
theorem wire_name_ne {start stem : String} (listed : start ∈ accessorStarts) :
    start ++ stem ≠ "decode" ∧ start ++ stem ≠ "encode" := by
  simp only [accessorStarts, List.mem_cons, List.not_mem_nil, or_false] at listed
  rcases listed with rfl | rfl | rfl <;> simp [← String.toList_inj]

/-- The methods of a class do not clash exactly if no two stems of its fields are the same. -/
theorem nodup_methods_iff (name : String) (fields : List BoundField) :
    ((structClass name fields).methods.map Method.signature).Nodup ↔
      (fields.flatMap fun bound => bound.field.stems).Nodup := by
  have wire : ([decodeMethod fields, encodeMethod fields].map Method.signature).Nodup := by
    simp [Method.signature, decodeMethod, encodeMethod]
  have apart : ∀ signature ∈ fields.flatMap fun bound => bound.accessors.map Method.signature,
      ∀ other ∈ [decodeMethod fields, encodeMethod fields].map Method.signature,
        signature ≠ other := by
    rintro signature listed _ wire rfl
    obtain ⟨bound, _, accessor⟩ := List.mem_flatMap.mp listed
    obtain ⟨method, accessor, same⟩ := List.mem_map.mp accessor
    obtain ⟨start, starts, stem, _, named⟩ := exists_stem accessor
    have names : start ++ stem = signature.1 := named.symm.trans (congrArg Prod.fst same)
    rw [List.map_cons, List.map_cons, List.map_nil, List.mem_pair] at wire
    rcases wire with rfl | rfl
    · exact (wire_name_ne starts).1 names
    · exact (wire_name_ne starts).2 names
  rw [structClass, List.map_append, List.map_flatMap, List.nodup_append, List.nodup_flatMap,
    List.nodup_flatMap]
  simp only [nodup_signatures, Field.nodup_stems, implies_true, true_and]
  rw [and_iff_left ⟨wire, apart⟩]
  exact List.Pairwise.iff fun _ _ => disjoint_signatures_iff

/-- The members of a class do not clash exactly if its fields have different names, and none of them
    has that of the presence bitmap. -/
theorem nodup_members_iff (name : String) (fields : List BoundField) :
    ((structClass name fields).members.map (·.name)).Nodup ↔
      presenceMember ∉ fields.map (·.field.name) ∧ (fields.map (·.field.name)).Nodup := by
  simp only [structClass, List.map_cons, List.map_map, List.nodup_cons]
  rfl

end Output

/-! ## Names of fields -/

/-- The field has a scale, and another name is that of its fractions. -/
def Field.FractionNamed (scaled field : Field) : Prop :=
  scaled.fixedPoint.isSome ∧ Text.capitalize field.name = Text.capitalize scaled.name ++ "Ext"

theorem Field.disjoint_stems_iff {field other : Field} : field.stems.Disjoint other.stems ↔
    Text.capitalize field.name ≠ Text.capitalize other.name ∧
      ¬ field.FractionNamed other ∧ ¬ other.FractionNamed field := by
  simp only [List.disjoint_left, Field.mem_stems, FractionNamed]
  constructor
  · intro disjoint
    refine ⟨fun same => disjoint (.inl rfl) (.inl same), ?_, ?_⟩
    · rintro ⟨scaled, named⟩
      exact disjoint (.inr ⟨scaled, rfl⟩) (.inl named.symm)
    · rintro ⟨scaled, named⟩
      exact disjoint (.inl rfl) (.inr ⟨scaled, named⟩)
  · rintro ⟨apart, notThere, notHere⟩ stem (rfl | ⟨scaled, rfl⟩) (same | ⟨scaled', same⟩)
    · exact apart same
    · exact notHere ⟨scaled', same⟩
    · exact notThere ⟨scaled, same.symm⟩
    · exact apart (String.append_left_inj _ |>.mp same)

/-- Stems are different if names are, whatever the case of their first characters, and if no field
    has the name of another one's fractions. -/
theorem nodup_stems_iff (fields : List Field) :
    (fields.flatMap Field.stems).Nodup ↔
      (fields.map fun field => Text.capitalize field.name).Nodup ∧
        ∀ scaled ∈ fields, ∀ field ∈ fields, ¬ scaled.FractionNamed field := by
  have notOwn (field : Field) : ¬ field.FractionNamed field :=
    fun named => ne_append_ext _ named.2
  rw [List.nodup_flatMap, List.Nodup, List.pairwise_map,
    and_iff_right fun field _ => field.nodup_stems]
  constructor
  · intro disjoint
    have pairs := disjoint.imp fun apart => Field.disjoint_stems_iff.mp apart
    refine ⟨pairs.imp fun apart => apart.1, fun scaled member field member' => ?_⟩
    have symmetric : Std.Symm fun field other : Field =>
        ¬ field.FractionNamed other ∧ ¬ other.FractionNamed field := ⟨fun _ _ => And.symm⟩
    have all := List.Pairwise.forall_of_forall
      (fun field _ => ⟨notOwn field, notOwn field⟩) (pairs.imp fun apart => apart.2)
    exact (all member member').1
  · rintro ⟨names, fractions⟩
    refine names.imp_of_mem fun member member' apart => Field.disjoint_stems_iff.mpr ?_
    exact ⟨apart, fractions _ member _ member', fractions _ member' _ member⟩

/-- The class that the source of a struct spells has no two members of one name exactly if the
    fields have different names and none is named like the presence bitmap.  It has no two methods
    of one name with parameters of the same types exactly if the names are different whatever the
    case of their first characters, and no field has the name of the fractions of a field with a
    scale. -/
theorem members_distinct_iff {scope : Scope} {banner viewpoint text : String} {struct : StructDecl}
    (generated : (scope.structSource banner viewpoint struct).outcome = .ok text) :
    ∃ decl, (scope.classOf viewpoint struct).outcome = .ok decl ∧
      text = decl.source banner viewpoint ∧
      ((decl.members.map (·.name)).Nodup ↔
        presenceMember ∉ struct.fields.map (·.name) ∧ (struct.fields.map (·.name)).Nodup) ∧
      ((decl.methods.map Method.signature).Nodup ↔
        (struct.fields.map fun field => Text.capitalize field.name).Nodup ∧
          ∀ scaled ∈ struct.fields, ∀ field ∈ struct.fields, ¬ scaled.FractionNamed field) := by
  obtain ⟨fields, declared, admitted, spelled⟩ := structSource_outcome_ok.mp generated
  have names : struct.fields.map (·.name) = fields.map (·.field.name) := by
    rw [← declared, List.map_map]
    rfl
  have stems : struct.fields.flatMap Field.stems =
      fields.flatMap fun bound => bound.field.stems := by
    rw [← declared, List.flatMap_map]
  refine ⟨structClass struct.name fields,
    Scope.classOf_outcome_ok.mpr ⟨fields, declared, admitted, rfl⟩, spelled, ?_, ?_⟩
  · rw [names]
    exact Output.nodup_members_iff struct.name fields
  · rw [Output.nodup_methods_iff, ← stems]
    exact nodup_stems_iff struct.fields

namespace Sample

/-- A hero with three fields of different names. -/
def hero : StructDecl :=
  ⟨"Hero", [.scalar "_tags" 1 .int32, .scalar "hp" 2 .int32, .scalar "Hp" 3 .int32], .blank⟩

end Sample

open Sample in
/-- The first field of a hero clashes with the presence bitmap, and the accessors of the others
    clash with each other. -/
theorem members_distinct_iff_hero :
    (hero.fields.map (·.name)).Nodup ∧
    ∃ (text : String) (decl : ClassDecl),
      ((Scope.global [] "javaPackage").structSource "" "game" hero).outcome = .ok text ∧
      text = decl.source "" "game" ∧
      ¬ (decl.members.map (·.name)).Nodup ∧ ¬ (decl.methods.map Method.signature).Nodup := by
  obtain ⟨text, generated⟩ : ∃ text, ((Scope.global [] "javaPackage").structSource "" "game"
      hero).outcome = .ok text := ⟨_, rfl⟩
  obtain ⟨decl, _, spelled, members, methods⟩ := members_distinct_iff generated
  refine ⟨by decide, text, decl, generated, spelled, ?_, ?_⟩
  · rw [members]
    decide
  · rw [methods]
    exact fun distinct => absurd distinct.1 (by decide +kernel)

end WireSchema
