import WireSchema.Output.ClassDecl

/-! # Classes of enums

An enum becomes a class of constants in declaration order, with a method that finds a constant
by its position.

* `EnumClass` is the class, and `EnumClass.lines` its text.
* `EnumClass.byInt?` is what its lookup answers: the constant at the position, and the first
  one for a position that none has.
-/

namespace WireSchema.Output

structure EnumClass where
  name : String
  constants : List String
  deriving DecidableEq

namespace EnumClass

/-- The constant that the lookup answers for a position, if there are constants at all. -/
def byInt? (decl : EnumClass) (position : Int) : Option String :=
  match (decl.constants.zipIdx).find? fun constant => (constant.2 : Int) == position with
  | some constant => some constant.1
  | none => decl.constants.head?

/-- The lines of the constants: a comma after each but the last, a semicolon after that one,
    and a semicolon alone if there is none. -/
def constantLines : List String → List String
  | [] => [indent 1 ";"]
  | [constant] => [indent 1 (constant ++ ";")]
  | constant :: constants => indent 1 (constant ++ ",") :: constantLines constants

def lookupLines (name : String) : List String :=
  [indent 1 ("public static " ++ name ++ " byInt(int o) \x7b"),
   indent 2 (name ++ "[] vals = " ++ name ++ ".values();"),
   indent 2 "for (int i = 0; i < vals.length; i++) \x7b",
   indent 3 "if (vals[i].ordinal() == o) \x7b",
   indent 4 "return vals[i];",
   indent 3 "\x7d",
   indent 2 "\x7d",
   indent 2 "return vals.length > 0 ? vals[0] : null;",
   indent 1 "\x7d"]

def lines (decl : EnumClass) : List String :=
  ["public enum " ++ decl.name ++ " \x7b"] ++ constantLines decl.constants ++ [""] ++
    lookupLines decl.name ++ ["\x7d"]

end EnumClass

end WireSchema.Output

namespace WireSchema

def EnumDecl.toClass (enum : EnumDecl) : Output.EnumClass := ⟨enum.name, enum.members⟩

end WireSchema
