import WireSchema.Proofs.LayoutLines
import WireSchema.Proofs.SourceLines

/-! # The layout in a source

As long as names are identifiers, the layout of a struct can be read off its source, although each
field stands in four places of it and a field with a scale has more accessors than one without.

* `StructLayout.Plain` — names are identifiers, and no text in a layout has a line break.
* `StructLayout.source_inj` — plain layouts with one text are one layout.
* `source_eq_iff_layout_eq` — structs with one source are structs with one layout.
-/

namespace WireSchema

open Output (Binding BoundField JavaType Operand ReadCall SourceFile Statement WriteCall
  fractionGetterName fractionSetterName getterName indent joinLines presenceName setterName
  structImports)

namespace Output

/-! ## Plain layouts -/

namespace FieldLayout

/-- The name is an identifier, and no text has a line break. -/
structure Plain (layout : FieldLayout) : Prop where
  name : IsIdentifier layout.name
  type : Unbroken layout.type
  read : Unbroken layout.read
  write : Unbroken layout.write
  factors : ∀ factors ∈ layout.factors, Unbroken factors.1 ∧ Unbroken factors.2

variable {layout : FieldLayout} {line : String}

theorem Plain.memberLine (plain : layout.Plain) : Unbroken layout.memberLine := by
  simp +decide [FieldLayout.memberLine, plain.type, plain.name.unbroken]

theorem Plain.accessorLines (plain : layout.Plain) (member : line ∈ layout.accessorLines) :
    Unbroken line := by
  have name := plain.name.unbroken
  have capital := Text.unbroken_capitalize name
  revert line
  cases scaled : layout.factors with
  | none =>
    simp +decide [FieldLayout.accessorLines, commonLines, markLine, scaled, name, capital,
      plain.type, getterName, setterName, presenceName]
  | some factors =>
    have factors := plain.factors factors scaled
    simp +decide [FieldLayout.accessorLines, commonLines, factorLines, markLine, scaled, name,
      capital, plain.type, factors.1, factors.2, getterName, setterName, presenceName,
      fractionGetterName, fractionSetterName]

theorem Plain.readLines (plain : layout.Plain) (member : line ∈ layout.readLines) :
    Unbroken line := by
  revert line
  simp +decide [FieldLayout.readLines, markLine, plain.name.unbroken, plain.read]

theorem Plain.writeLines (plain : layout.Plain) (member : line ∈ layout.writeLines) :
    Unbroken line := by
  revert line
  simp +decide [FieldLayout.writeLines, plain.write]

end FieldLayout

/-- The names are identifiers, and no text has a line break. -/
structure StructLayout.Plain (layout : StructLayout) : Prop where
  name : IsIdentifier layout.name
  fields : ∀ field ∈ layout.fields, field.Plain

theorem StructLayout.Plain.unbroken {layout : StructLayout} (plain : layout.Plain) :
    ∀ line ∈ layout.lines, Unbroken line := by
  have each {lines : FieldLayout → List String}
      (unbroken : ∀ field : FieldLayout, field.Plain → ∀ line ∈ lines field, Unbroken line) :
      ∀ line ∈ layout.fields.flatMap lines, Unbroken line := by
    intro line member
    obtain ⟨field, listed, member⟩ := List.mem_flatMap.mp member
    exact unbroken field (plain.fields field listed) line member
  have members : ∀ line ∈ layout.fields.map FieldLayout.memberLine, Unbroken line := by
    intro line member
    obtain ⟨field, listed, rfl⟩ := List.mem_map.mp member
    exact (plain.fields field listed).memberLine
  have accessors := each fun _ plain _ => plain.accessorLines
  have reads := each fun _ plain _ => plain.readLines
  have writes := each fun _ plain _ => plain.writeLines
  have fixed : ∀ line ∈ readOpening ++ writeOpening ++ closing, Unbroken line := by
    decide +kernel
  simp only [List.forall_mem_append] at fixed
  obtain ⟨⟨opening, between⟩, closed⟩ := fixed
  simp only [lines, List.forall_mem_cons, List.forall_mem_append]
  refine ⟨?_, by decide, members, by decide, accessors, opening, reads, between, writes, closed⟩
  simp +decide [plain.name.unbroken]

/-! ## Blocks of lines -/

/-- Two lists made of blocks, a block for each element, have the same blocks.  What follows a block
    may help to see where it ends. -/
theorem forall₂_of_flatMap {α β : Type} {R S : α → α → Prop} (block : α → List β)
    (Follows : List β → Prop)
    (each : ∀ {x y rest rest'}, R x y → Follows rest → Follows rest' →
      block x ++ rest = block y ++ rest' → S x y ∧ rest = rest')
    (follows : ∀ x rest, Follows (block x ++ rest)) {xs ys : List α} {rest rest' : List β}
    (pairs : List.Forall₂ R xs ys) (last : Follows rest) (last' : Follows rest')
    (same : xs.flatMap block ++ rest = ys.flatMap block ++ rest') :
    List.Forall₂ (fun x y => R x y ∧ S x y) xs ys ∧ rest = rest' := by
  have flatMap_follows (zs : List α) {rest : List β} (last : Follows rest) :
      Follows (zs.flatMap block ++ rest) := by
    cases zs with
    | nil => exact last
    | cons z zs =>
      rw [List.flatMap_cons, List.append_assoc]
      exact follows z _
  induction pairs with
  | nil => exact ⟨.nil, same⟩
  | cons pair pairs inductionHypothesis =>
    rename_i x y xs ys
    rw [List.flatMap_cons, List.flatMap_cons, List.append_assoc, List.append_assoc] at same
    obtain ⟨here, same⟩ :=
      each pair (flatMap_follows xs last) (flatMap_follows ys last') same
    obtain ⟨there, same⟩ := inductionHypothesis same
    exact ⟨.cons ⟨pair, here⟩ there, same⟩

/-- The same of blocks that show where they end. -/
theorem forall₂_of_flatMap_closed {α β : Type} {R S : α → α → Prop} (block : α → List β)
    (each : ∀ {x y rest rest'}, R x y → block x ++ rest = block y ++ rest' →
      S x y ∧ rest = rest')
    {xs ys : List α} {rest rest' : List β} (pairs : List.Forall₂ R xs ys)
    (same : xs.flatMap block ++ rest = ys.flatMap block ++ rest') :
    List.Forall₂ (fun x y => R x y ∧ S x y) xs ys ∧ rest = rest' :=
  forall₂_of_flatMap block (fun _ => True) (fun alike _ _ => each alike)
    (fun _ _ => trivial) pairs trivial trivial same

/-! ## Layouts from lines -/

namespace FieldLayout

variable {layout other : FieldLayout} {rest rest' : List String}

theorem memberLine_inj (name : IsIdentifier layout.name) (name' : IsIdentifier other.name) :
    layout.memberLine = other.memberLine ↔
      layout.name = other.name ∧ layout.type = other.type := by
  refine ⟨fun same => ?_, fun ⟨name, type⟩ => by rw [memberLine, name, type, memberLine]⟩
  have toList (layout : FieldLayout) : layout.memberLine.toList =
      (indent 1 "private " ++ layout.type).toList ++ ' ' :: (layout.name ++ ";").toList := by
    simp [memberLine, indent]
  -- a type may have blanks, and a name has none
  have last {name : String} (identifier : IsIdentifier name) : ' ' ∉ (name ++ ";").toList := by
    simpa using identifier.not_mem (by decide)
  rw [← String.toList_inj, toList, toList, append_cons_inj_of_last (last name) (last name'),
    String.toList_inj, String.toList_inj, String.append_right_inj, String.append_left_inj] at same
  exact same.symm

theorem memberLines_inj {layouts others : List FieldLayout}
    (names : ∀ layout ∈ layouts, IsIdentifier layout.name)
    (names' : ∀ layout ∈ others, IsIdentifier layout.name)
    (same : layouts.map memberLine = others.map memberLine) :
    List.Forall₂ (fun layout other => layout.name = other.name ∧ layout.type = other.type)
      layouts others := by
  induction layouts generalizing others with
  | nil =>
    cases others with
    | nil => exact .nil
    | cons other others => cases same
  | cons layout layouts inductionHypothesis =>
    cases others with
    | nil => cases same
    | cons other others =>
      rw [List.forall_mem_cons] at names names'
      obtain ⟨here, there⟩ := List.cons.inj same
      exact .cons ((memberLine_inj names.1 names'.1).mp here)
        (inductionHypothesis names.2 names'.2 there)

/-- The line does not open the setter of a fraction. -/
def Other (line : String) : Prop := ¬ "(float val) \x7b".toList <:+ line.toList

instance : DecidablePred Other :=
  fun line => inferInstanceAs (Decidable (¬ "(float val) \x7b".toList <:+ line.toList))

theorem other_of_append (front : String) : Other (front ++ "() \x7b") := by
  intro setter
  have ending : "() \x7b".toList <:+ (front ++ "() \x7b").toList := by
    rw [String.toList_append]
    exact List.suffix_append _ _
  have both := List.suffix_of_suffix_length_le ending setter (by decide)
  revert both
  decide

/-- The lines do not go on with the setter of a fraction. -/
def GoesOn (lines : List String) : Prop := ∃ line more, lines = line :: more ∧ Other line

theorem accessorLines_goesOn (layout : FieldLayout) (rest : List String) :
    GoesOn (layout.accessorLines ++ rest) := by
  refine ⟨_, _, rfl, ?_⟩
  rw [indent, ← String.append_assoc]
  exact other_of_append _

theorem not_goesOn_factorLines (factors : String × String) :
    ¬ GoesOn (layout.factorLines factors ++ rest) := by
  rintro ⟨_, _, split, other⟩
  cases split
  apply other
  simp only [indent, String.toList_append, ← List.append_assoc]
  exact List.suffix_append _ _

theorem factorLines_append_inj {factors factors' : String × String}
    (name : layout.name = other.name) (type : layout.type = other.type)
    (same : layout.factorLines factors ++ rest = other.factorLines factors' ++ rest') :
    factors = factors' ∧ rest = rest' := by
  simp only [factorLines, name, type, List.cons_append, List.nil_append, List.cons.injEq,
    indent_inj, String.append_left_inj, String.append_right_inj, true_and] at same
  obtain ⟨reciprocal, _, scale, rest⟩ := same
  exact ⟨Prod.ext reciprocal scale, rest⟩

/-- Accessors of one name and one type are those of one scale.  Where only one of two fields has a
    scale, the other one goes on with something else. -/
theorem accessorLines_append_inj (alike : layout.name = other.name ∧ layout.type = other.type)
    (goesOn : GoesOn rest) (goesOn' : GoesOn rest')
    (same : layout.accessorLines ++ rest = other.accessorLines ++ rest') :
    layout.factors = other.factors ∧ rest = rest' := by
  unfold accessorLines at same
  rw [List.append_assoc, List.append_assoc] at same
  have same := (List.append_inj same rfl).2
  cases scaled : layout.factors with
  | none =>
    cases scaled' : other.factors with
    | none =>
      rw [scaled, scaled'] at same
      exact ⟨rfl, same⟩
    | some factors =>
      rw [scaled, scaled', Option.elim_none, List.nil_append, Option.elim_some] at same
      exact absurd (same ▸ goesOn) (not_goesOn_factorLines factors)
  | some factors =>
    cases scaled' : other.factors with
    | none =>
      rw [scaled, scaled', Option.elim_none, List.nil_append, Option.elim_some] at same
      exact absurd (same ▸ goesOn') (not_goesOn_factorLines factors)
    | some factors' =>
      rw [scaled, scaled', Option.elim_some, Option.elim_some] at same
      obtain ⟨rfl, rest⟩ := factorLines_append_inj alike.1 alike.2 same
      exact ⟨rfl, rest⟩

theorem readLines_append_inj (name : layout.name = other.name)
    (same : layout.readLines ++ rest = other.readLines ++ rest') :
    (layout.tag = other.tag ∧ layout.read = other.read) ∧ rest = rest' := by
  simp only [readLines, name, List.cons_append, List.nil_append, List.cons.injEq, indent_inj,
    String.append_left_inj, String.append_right_inj, Nat.toString_eq_repr, repr_inj,
    UInt16.toNat_inj, true_and] at same
  obtain ⟨tag, read, _, rest⟩ := same
  exact ⟨⟨tag, read⟩, rest⟩

theorem writeLines_append_inj (same : layout.writeLines ++ rest = other.writeLines ++ rest') :
    layout.write = other.write ∧ rest = rest' := by
  simp only [writeLines, List.cons_append, List.nil_append, List.cons.injEq, indent_inj,
    true_and] at same
  exact same.2

theorem memberLine_ne_empty (layout : FieldLayout) : layout.memberLine ≠ "" := by
  simp [memberLine, indent]

end FieldLayout

namespace StructLayout

variable {layout other : StructLayout}

theorem readOpening_goesOn (rest : List String) :
    FieldLayout.GoesOn (readOpening ++ rest) :=
  ⟨_, _, rfl, by decide⟩

/-- The lines of a layout tell it from all others. -/
theorem lines_inj (plain : layout.Plain) (plain' : other.Plain) :
    layout.lines = other.lines ↔ layout = other := by
  refine ⟨fun same => ?_, congrArg lines⟩
  have names (layout : StructLayout) (plain : layout.Plain) :
      ∀ field ∈ layout.fields, IsIdentifier field.name :=
    fun field listed => (plain.fields field listed).name
  have members (layout : StructLayout) : "" ∉ layout.fields.map FieldLayout.memberLine := by
    simpa using fun field _ => field.memberLine_ne_empty
  rw [lines, lines, List.cons.injEq, List.cons.injEq] at same
  obtain ⟨header, _, same⟩ := same
  rw [String.append_left_inj, String.append_right_inj] at header
  -- the four places of the fields, one after the other
  obtain ⟨listed, same⟩ := (append_cons_inj_of_first (members layout) (members other)).mp same
  have fields := FieldLayout.memberLines_inj (names layout plain) (names other plain') listed
  obtain ⟨fields, same⟩ := forall₂_of_flatMap FieldLayout.accessorLines FieldLayout.GoesOn
    FieldLayout.accessorLines_append_inj FieldLayout.accessorLines_goesOn fields
    (readOpening_goesOn _) (readOpening_goesOn _) same
  obtain ⟨fields, same⟩ := forall₂_of_flatMap_closed FieldLayout.readLines
    (fun alike => FieldLayout.readLines_append_inj alike.1.1) fields
    (List.append_cancel_left same)
  obtain ⟨fields, _⟩ := forall₂_of_flatMap_closed FieldLayout.writeLines
    (fun _ => FieldLayout.writeLines_append_inj) fields (List.append_cancel_left same)
  have equal : List.Forall₂ (· = ·) layout.fields other.fields := by
    refine fields.imp fun field field' alike => ?_
    obtain ⟨⟨⟨⟨name, type⟩, factors⟩, tag, read⟩, write⟩ := alike
    cases field
    cases field'
    simp_all
  rw [List.forall₂_eq_eq_eq] at equal
  cases layout
  cases other
  simp_all

theorem source_inj {banner placement : String} (plain : layout.Plain) (plain' : other.Plain) :
    layout.source banner placement = other.source banner placement ↔ layout = other := by
  have cut (layout : StructLayout) : layout.source banner placement =
      joinLines ([banner, ""] ++ SourceFile.placementLines placement ++
        SourceFile.importLines structImports) ++ joinLines layout.lines :=
    joinLines_append _ _
  rw [cut, cut, String.append_right_inj, joinLines_inj plain.unbroken plain'.unbroken,
    lines_inj plain plain']

end StructLayout

end Output

/-! ## Structs -/

namespace Scope

variable {scope : Scope} {viewpoint : String} {struct : StructDecl} {bound : BoundField}

/-- The names that a field brings into the class of its struct are identifiers, and those of types
    may have dots in between. -/
structure PlainField (scope : Scope) (viewpoint : String) (field : Field) : Prop where
  name : IsIdentifier field.name
  key : ∀ key, scope.MapKey field key → IsIdentifier key.name
  references : ∀ ref ∈ scope.lookups field, IsQualifiedName (scope.nameOf viewpoint ref)

/-- The names that a struct brings into its class are identifiers, and those of types may have dots
    in between. -/
structure PlainNames (scope : Scope) (viewpoint : String) (struct : StructDecl) : Prop where
  name : IsIdentifier struct.name
  fields : ∀ field ∈ struct.fields, scope.PlainField viewpoint field

theorem unbroken_box {text : String} (unbroken : Unbroken text) : Unbroken (JavaType.box text) := by
  unfold JavaType.box
  split
  · decide
  · split
    · decide
    · split
      · decide
      · exact unbroken

/-- The key of a map has a type without line breaks. -/
theorem PlainField.unbroken_keyType {field key : Field} {type : JavaType}
    (plain : scope.PlainField viewpoint field) (mapKey : scope.MapKey field key)
    (typed : (scope.singleType viewpoint key).outcome = .ok type) : Unbroken type.spelling := by
  obtain basic | ⟨reference, ref, target, rfl⟩ := singleType_outcome_ok.mp typed
  · have basics : ∀ kind : Kind, ∀ type, kind.basicType? = some type → Unbroken type.spelling := by
      intro kind type basic
      cases kind <;> cases basic <;> decide
    exact basics key.kind type basic
  · exact (plain.references ref (mem_lookups.mpr (.inr ⟨key, mapKey, reference, target⟩))).unbroken

/-- A binding has no line breaks. -/
theorem PlainField.unbroken_of_binds {field : Field} {binding : Binding}
    (plain : scope.PlainField viewpoint field) (binds : scope.Binds viewpoint field binding) :
    Unbroken binding.type.spelling ∧ Unbroken binding.read.spelling ∧
      Unbroken (Statement.write binding.write).spelling := by
  have name : Unbroken field.name := plain.name.unbroken
  have className {ref : TypeRef} (reference : field.kind.isReference)
      (target : field.target = some ref) : Unbroken (scope.nameOf viewpoint ref) :=
    (plain.references ref (mem_lookups.mpr (.inl ⟨reference, target⟩))).unbroken
  unfold ReadCall.spelling
  cases binds with
  | constant kind _ target | constants kind _ target =>
    have className := className (Kind.isReference_iff.mpr (.inl kind)) target
    simp only [Binding.of, JavaType.spelling, Statement.spelling,
      WriteCall.spelling, Operand.spelling, unbroken_append, Nat.toString_eq_repr, unbroken_repr,
      name, className]
    decide
  | object kind _ target | objects kind _ _ target =>
    have className := className (Kind.isReference_iff.mpr (.inr kind)) target
    simp only [Binding.of, JavaType.spelling, Statement.spelling,
      WriteCall.spelling, Operand.spelling, unbroken_append, Nat.toString_eq_repr, unbroken_repr,
      name, className]
    decide
  | map mapKey target typed =>
    have className := className (Kind.isReference_iff.mpr (.inr mapKey.kind)) target
    have keyType := unbroken_box (plain.unbroken_keyType mapKey typed)
    have getter := Text.unbroken_capitalize (plain.key _ mapKey).unbroken
    simp only [Binding.of, JavaType.spelling, Statement.spelling,
      WriteCall.spelling, Operand.spelling, unbroken_append, Nat.toString_eq_repr, unbroken_repr,
      name, className, keyType, getter, getterName]
    decide
  | _ =>
    simp only [Binding.of, JavaType.spelling, Statement.spelling,
      WriteCall.spelling, Operand.spelling, unbroken_append, Nat.toString_eq_repr, unbroken_repr,
      name]
    decide

theorem PlainField.plain_layout (plain : scope.PlainField viewpoint bound.field)
    (admits : scope.Admits viewpoint bound) : bound.layout.Plain := by
  have texts := plain.unbroken_of_binds admits.binds
  refine ⟨plain.name, texts.1, texts.2.1, texts.2.2, ?_⟩
  rintro factors scaled
  obtain ⟨fixed, _, rfl⟩ := Option.map_eq_some_iff.mp scaled
  exact ⟨unbroken_floatLiteral _, unbroken_floatLiteral _⟩

/-- The layout of a struct, or the failure of its first field that has none. -/
def structLayout (scope : Scope) (viewpoint : String) (struct : StructDecl) :
    Except FieldError Output.StructLayout := do
  let fields ← (Logged.forEach (scope.bindField viewpoint) struct.fields).outcome
  return ⟨struct.name, fields.map BoundField.layout⟩

theorem structLayout_eq {fields : List BoundField} (declared : fields.map (·.field) = struct.fields)
    (admitted : ∀ bound ∈ fields, scope.Admits viewpoint bound) :
    scope.structLayout viewpoint struct = .ok ⟨struct.name, fields.map BoundField.layout⟩ := by
  have bound : (Logged.forEach (scope.bindField viewpoint) struct.fields).outcome = .ok fields := by
    rw [Logged.forEach_outcome_ok, ← declared, List.forall₂_map_left_iff, List.forall₂_same]
    exact fun bound member => bindField_outcome_ok.mpr ⟨rfl, admitted bound member⟩
  rw [structLayout, bound]
  rfl

/-- A struct that is generated has a layout, and its source is the one for that layout. -/
theorem exists_structLayout {banner text : String} (plain : scope.PlainNames viewpoint struct)
    (generated : (scope.structSource banner viewpoint struct).outcome = .ok text) :
    ∃ layout : Output.StructLayout, scope.structLayout viewpoint struct = .ok layout ∧
      layout.Plain ∧ text = layout.source banner viewpoint := by
  obtain ⟨fields, declared, admitted, rfl⟩ := structSource_outcome_ok.mp generated
  refine ⟨⟨struct.name, fields.map BoundField.layout⟩, structLayout_eq declared admitted, ?_,
    Output.source_structClass banner viewpoint struct.name fields⟩
  refine ⟨plain.name, fun layout listed => ?_⟩
  obtain ⟨bound, member, rfl⟩ := List.mem_map.mp listed
  refine PlainField.plain_layout (plain.fields bound.field ?_) (admitted bound member)
  rw [← declared]
  exact List.mem_map_of_mem member

end Scope

/-- Two structs that are generated under one banner and in one namespace have one source exactly if
    they have one layout: the name of the class, and for each field in declaration order its name,
    its tag, its type, the expression that reads it, the statement that writes it, and the factors
    of its scale. -/
theorem source_eq_iff_layout_eq {scope scope' : Scope} {banner viewpoint text text' : String}
    {struct struct' : StructDecl} (plain : scope.PlainNames viewpoint struct)
    (plain' : scope'.PlainNames viewpoint struct')
    (generated : (scope.structSource banner viewpoint struct).outcome = .ok text)
    (generated' : (scope'.structSource banner viewpoint struct').outcome = .ok text') :
    ∃ layout layout' : Output.StructLayout, scope.structLayout viewpoint struct = .ok layout ∧
      scope'.structLayout viewpoint struct' = .ok layout' ∧
      (text = text' ↔ layout = layout') := by
  obtain ⟨layout, found, plain, rfl⟩ := Scope.exists_structLayout plain generated
  obtain ⟨layout', found', plain', rfl⟩ := Scope.exists_structLayout plain' generated'
  exact ⟨layout, layout', found, found', Output.StructLayout.source_inj plain plain'⟩

namespace Sample

def goldTagged (tag : UInt16) : Field := { gold.scaledBy 0.01 with tag := tag }

/-- A bag of items by their colors, and of gold in hundredths that is sent under the given tag. -/
def goldBag (tag : UInt16) : StructDecl := ⟨"Bag", [items, goldTagged tag], .blank⟩

def itemScope : Scope := .global [item] "javaPackage"

theorem goldBag_bound (tag : UInt16) :
    ∃ fields : List BoundField, fields.map (·.field) = (goldBag tag).fields ∧
      ∀ bound ∈ fields, itemScope.Admits "bag" bound := by
  obtain ⟨itemsBinding, itemsBound⟩ :
      ∃ binding, (itemScope.bind "bag" items).outcome = .ok binding := ⟨_, rfl⟩
  obtain ⟨goldBinding, goldBound⟩ :
      ∃ binding, (itemScope.bind "bag" (goldTagged tag)).outcome = .ok binding := ⟨_, rfl⟩
  have valid : (FixedPoint.mk 0.01).isValid = true := by decide +kernel
  have scale : (goldTagged tag).checkScale = .ok () :=
    Field.checkScale_eq_ok.mpr fun _ scaled => ⟨rfl, rfl, Option.some.inj scaled ▸ valid⟩
  refine ⟨[⟨items, itemsBinding⟩, ⟨goldTagged tag, goldBinding⟩], rfl, ?_⟩
  simpa using ⟨⟨rfl, Scope.bind_outcome_ok.mp itemsBound⟩,
    ⟨scale, Scope.bind_outcome_ok.mp goldBound⟩⟩

theorem goldBag_plain (tag : UInt16) : itemScope.PlainNames "bag" (goldBag tag) := by
  have itemsPlain : itemScope.PlainField "bag" items := by
    refine ⟨by decide, fun key mapKey => ?_, fun ref listed => ?_⟩
    · cases Scope.keyField?_eq_some_iff.mpr mapKey
      decide
    · have lookups : itemScope.lookups items = [⟨"Item", none⟩, ⟨"Color", none⟩] := by decide
      rw [lookups, List.mem_pair] at listed
      rcases listed with rfl | rfl
      · exact .dotted (by decide : IsIdentifier "item") (.simple (by decide : IsIdentifier "Item"))
      · exact .dotted (by decide : IsIdentifier "item") (.simple (by decide : IsIdentifier "Color"))
  have goldPlain : itemScope.PlainField "bag" (goldTagged tag) := by
    refine ⟨(by decide : IsIdentifier "gold"), fun key mapKey => ?_, fun ref listed => ?_⟩
    · cases mapKey.kind
    · cases listed
  exact ⟨(by decide : IsIdentifier "Bag"), by simpa [goldBag] using ⟨itemsPlain, goldPlain⟩⟩

end Sample

open Sample in
/-- Two bags whose gold has different tags have different sources. -/
theorem source_eq_iff_layout_eq_bags :
    ∃ text text', (itemScope.structSource "" "bag" (goldBag 2)).outcome = .ok text ∧
      (itemScope.structSource "" "bag" (goldBag 3)).outcome = .ok text' ∧ text ≠ text' := by
  have generated (tag : UInt16) :
      ∃ text, (itemScope.structSource "" "bag" (goldBag tag)).outcome = .ok text := by
    obtain ⟨fields, declared, admitted⟩ := goldBag_bound tag
    exact ⟨_, structSource_outcome_ok.mpr ⟨fields, declared, admitted, rfl⟩⟩
  have tags {tag : UInt16} {layout : Output.StructLayout}
      (found : itemScope.structLayout "bag" (goldBag tag) = .ok layout) :
      layout.fields.map (·.tag) = [1, tag] := by
    obtain ⟨fields, declared, admitted⟩ := goldBag_bound tag
    rw [Scope.structLayout_eq declared admitted] at found
    cases found
    have tags := congrArg (List.map (·.tag)) declared
    rw [List.map_map] at tags ⊢
    exact tags
  obtain ⟨text, generated2⟩ := generated 2
  obtain ⟨text', generated3⟩ := generated 3
  obtain ⟨layout, layout', found, found', same⟩ :=
    source_eq_iff_layout_eq (goldBag_plain 2) (goldBag_plain 3) generated2 generated3
  refine ⟨text, text', generated2, generated3, fun equal => ?_⟩
  have listed := tags found
  rw [same.mp equal, tags found'] at listed
  revert listed
  decide

end WireSchema
