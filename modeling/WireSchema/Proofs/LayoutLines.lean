import WireSchema.Proofs.FieldChecks

/-! # The lines of a layout

The class of a struct mentions each field in four places: as a member, by its accessors, and in
both wire methods.  All that it says of the fields is their layout.

* `FieldLayout` and `StructLayout` — what a class says of its fields, as texts.
* `StructLayout.source` — the text for a layout, and `source_structClass` — a class has it.
-/

namespace WireSchema

open Output (BoundField Case ClassDecl JavaType Member Method SourceFile Statement decodeMethod
  encodeMethod floatLiteral fractionGetterName fractionSetterName getterName indent methodLines
  presenceName setterName structClass structImports)

/-! ## Layouts -/

namespace Output

/-- What a class says of one of its fields. -/
structure FieldLayout where
  name : String
  tag : UInt16
  /-- The type of the member. -/
  type : String
  /-- The expression that reads the member. -/
  read : String
  /-- The statement that writes it. -/
  write : String
  /-- The factors of a field with a scale: what a fraction is multiplied with when it is set, and
      what the number is multiplied with when the fraction is got. -/
  factors : Option (String × String)
  deriving DecidableEq

structure StructLayout where
  name : String
  fields : List FieldLayout
  deriving DecidableEq

def BoundField.layout (bound : BoundField) : FieldLayout where
  name := bound.field.name
  tag := bound.field.tag
  type := bound.binding.type.spelling
  read := bound.binding.read.spelling
  write := (Statement.write bound.binding.write).spelling
  factors := bound.field.fixedPoint.map fun fixed =>
    (floatLiteral fixed.reciprocal, floatLiteral fixed.scale)

/-! ## Lines of a layout -/

namespace FieldLayout

def memberLine (layout : FieldLayout) : String :=
  indent 1 ("private " ++ layout.type ++ " " ++ layout.name ++ ";")

/-- The line that puts the field into the presence bitmap. -/
def markLine (layout : FieldLayout) : String :=
  "_tags.setTag(" ++ toString layout.tag.toNat ++ ");"

/-- The accessors that every field has, with an empty line after each. -/
def commonLines (layout : FieldLayout) : List String :=
  [indent 1 ("public " ++ layout.type ++ " " ++ getterName layout.name ++ "() \x7b"),
   indent 2 ("return " ++ layout.name ++ ";"),
   indent 1 "\x7d", "",
   indent 1 ("public void " ++ setterName layout.name ++ "(" ++ layout.type ++ " val) \x7b"),
   indent 2 ("this." ++ layout.name ++ " = val;"),
   indent 2 layout.markLine,
   indent 1 "\x7d", "",
   indent 1 ("public boolean " ++ presenceName layout.name ++ "() \x7b"),
   indent 2 ("return _tags.hasTag(" ++ toString layout.tag.toNat ++ ");"),
   indent 1 "\x7d", ""]

/-- The two accessors of a field with the given factors. -/
def factorLines (layout : FieldLayout) (factors : String × String) : List String :=
  [indent 1 ("public void " ++ fractionSetterName layout.name ++ "(float val) \x7b"),
   indent 2 ("this." ++ layout.name ++ " = (" ++ layout.type ++ ")(val * " ++ factors.1 ++ ");"),
   indent 2 layout.markLine,
   indent 1 "\x7d", "",
   indent 1 ("public float " ++ fractionGetterName layout.name ++ "() \x7b"),
   indent 2 ("return " ++ layout.name ++ " * " ++ factors.2 ++ ";"),
   indent 1 "\x7d", ""]

def accessorLines (layout : FieldLayout) : List String :=
  layout.commonLines ++ layout.factors.elim [] layout.factorLines

def readLines (layout : FieldLayout) : List String :=
  [indent 4 ("case " ++ toString layout.tag.toNat ++ ":"),
   indent 5 ("this." ++ layout.name ++ " = " ++ layout.read ++ ";"),
   indent 5 layout.markLine,
   indent 5 "break;"]

def writeLines (layout : FieldLayout) : List String :=
  [indent 4 ("case " ++ toString layout.tag.toNat ++ ":"),
   indent 5 layout.write,
   indent 5 "break;"]

end FieldLayout

namespace StructLayout

/-- The lines in front of the cases for the tags that are read. -/
def readOpening : List String :=
  [indent 1 "public void decode(Decoder decoder) \x7b",
   indent 2 "int[] present = decoder.tags();",
   indent 2 "for (int i = 0; i < present.length; i++) \x7b",
   indent 3 "switch (present[i]) \x7b"]

/-- The lines from the last case for a tag that is read to the first one for a tag that is
    written. -/
def writeOpening : List String :=
  [indent 3 "\x7d", indent 2 "\x7d", indent 1 "\x7d", "",
   indent 1 "public void encode(Encoder encoder) \x7b",
   indent 2 "_tags.each(tag -> \x7b",
   indent 3 "switch (tag) \x7b"]

def closing : List String :=
  [indent 3 "\x7d", indent 2 "\x7d);", indent 1 "\x7d", "\x7d"]

def lines (layout : StructLayout) : List String :=
  ("public class " ++ layout.name ++ " implements SprotoObject \x7b") ::
    indent 1 "private Tags _tags = new Tags();" ::
    (layout.fields.map FieldLayout.memberLine ++ "" ::
    (layout.fields.flatMap FieldLayout.accessorLines ++
    (readOpening ++ (layout.fields.flatMap FieldLayout.readLines ++
    (writeOpening ++ (layout.fields.flatMap FieldLayout.writeLines ++ closing))))))

/-- The source for a layout. -/
def source (banner placement : String) (layout : StructLayout) : String :=
  ({ banner := banner, placement := placement, imports := structImports,
     body := layout.lines } : SourceFile).text

end StructLayout

/-! ## Lines of a class -/

theorem memberLine_eq (bound : BoundField) : bound.member.line = bound.layout.memberLine := by
  simp [Member.line, BoundField.member, FieldLayout.memberLine, BoundField.layout]

theorem commonLines_eq (bound : BoundField) :
    [bound.getter, bound.setter, bound.presenceCheck].flatMap (fun method => method.lines ++ [""]) =
      bound.layout.commonLines := by
  simp [FieldLayout.commonLines, FieldLayout.markLine, BoundField.layout, BoundField.getter,
    BoundField.setter, BoundField.presenceCheck, Method.lines, Method.resultSpelling, Body.lines,
    Parameter.spelling, Statement.spelling, Expression.spelling, JavaType.spelling, presenceMember,
    indent, ← String.toList_inj]

theorem factorLines_eq (bound : BoundField) (fixed : FixedPoint) :
    [bound.fractionSetter fixed, bound.fractionGetter fixed].flatMap
        (fun method => method.lines ++ [""]) =
      bound.layout.factorLines (floatLiteral fixed.reciprocal, floatLiteral fixed.scale) := by
  simp [FieldLayout.factorLines, FieldLayout.markLine, BoundField.layout, BoundField.fractionSetter,
    BoundField.fractionGetter, Method.lines, Method.resultSpelling, Body.lines,
    Parameter.spelling, Statement.spelling, Expression.spelling, JavaType.spelling, presenceMember,
    indent, ← String.toList_inj]

theorem accessorLines_eq (bound : BoundField) :
    bound.accessors.flatMap (fun method => method.lines ++ [""]) = bound.layout.accessorLines := by
  unfold BoundField.accessors FieldLayout.accessorLines
  rw [List.flatMap_append, commonLines_eq]
  congr 1
  cases scaled : bound.field.fixedPoint with
  | none => simp [BoundField.layout, scaled]
  | some fixed =>
    have factors : bound.layout.factors =
        some (floatLiteral fixed.reciprocal, floatLiteral fixed.scale) := by
      simp [BoundField.layout, scaled]
    rw [factorLines_eq, factors, Option.elim_some]

theorem readLines_eq (bound : BoundField) : bound.readCase.lines = bound.layout.readLines := rfl

theorem writeLines_eq (bound : BoundField) : bound.writeCase.lines = bound.layout.writeLines := rfl

theorem methodLines_eq (fields : List BoundField) :
    methodLines [decodeMethod fields, encodeMethod fields] ++ ["\x7d"] =
      StructLayout.readOpening ++
        ((fields.map BoundField.layout).flatMap FieldLayout.readLines ++
          (StructLayout.writeOpening ++
            ((fields.map BoundField.layout).flatMap FieldLayout.writeLines ++
              StructLayout.closing))) := by
  have caseLines (lines : FieldLayout → List String) (f : BoundField → Case)
      (each : ∀ bound : BoundField, (f bound).lines = lines bound.layout) :
      (fields.map f).flatMap Case.lines = (fields.map BoundField.layout).flatMap lines := by
    simp [List.flatMap_map, each]
  rw [← caseLines _ _ readLines_eq, ← caseLines _ _ writeLines_eq]
  simp [methodLines, Method.lines, Body.lines, decodeMethod, encodeMethod, Method.resultSpelling,
    Parameter.spelling, JavaType.spelling, StructLayout.readOpening, StructLayout.writeOpening,
    StructLayout.closing, presenceMember]

theorem lines_structClass (name : String) (fields : List BoundField) :
    (structClass name fields).lines =
      StructLayout.lines ⟨name, fields.map BoundField.layout⟩ := by
  have presence : Member.line ⟨.named "Tags", presenceMember, true⟩ =
      indent 1 "private Tags _tags = new Tags();" := by decide
  have accessors : fields.flatMap (fun bound =>
      bound.accessors.flatMap fun method => method.lines ++ [""]) =
        (fields.map BoundField.layout).flatMap FieldLayout.accessorLines := by
    simp [List.flatMap_map, accessorLines_eq]
  simp only [ClassDecl.lines, structClass, StructLayout.lines]
  rw [methodLines_append _ (by simp), List.flatMap_assoc, accessors, List.map_cons, presence,
    List.append_assoc, List.append_assoc, List.append_assoc, List.append_assoc, methodLines_eq]
  simp [memberLine_eq]

/-- The source of a class is that of its layout. -/
theorem source_structClass (banner placement name : String) (fields : List BoundField) :
    (structClass name fields).source banner placement =
      StructLayout.source banner placement ⟨name, fields.map BoundField.layout⟩ := by
  rw [ClassDecl.source, lines_structClass, StructLayout.source]

end Output

end WireSchema
