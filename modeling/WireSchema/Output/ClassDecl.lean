import WireSchema.Output.Binding

/-! # Generated classes

A generated class is described before it is spelled.  The description has just the forms that
generated classes use, so that what a class does can be read off it.

* `Expression`, `Statement` and `Body` are what methods are made of.
* `Method`, `Member` and `ClassDecl` are the class.
* `ClassDecl.lines` spells a class, line by line.
-/

namespace WireSchema.Output

/-! ## Bodies -/

/-- The factor of a scaled field, as a literal of the generated source. -/
def floatLiteral (x : Float) : String :=
  scaleLayout.format x ++ "f"

/-- An expression in the body of a method. -/
inductive Expression where
  /-- An unqualified name: a parameter of the method, or else a member. -/
  | name (id : String)
  /-- Whether the presence bitmap holds a tag. -/
  | isPresent (tag : UInt16)
  /-- The value of a name, times a factor. -/
  | scaled (id : String) (factor : Float)
  /-- The value of a name, times a factor, cut down to a type. -/
  | truncated (type : JavaType) (id : String) (factor : Float)
  | read (call : ReadCall)
  deriving DecidableEq

/-- A statement in the body of a method. -/
inductive Statement where
  | answer (value : Expression)
  /-- Stores a value in a member of the object itself. -/
  | assign (member : String) (value : Expression)
  /-- Puts a tag into the presence bitmap. -/
  | markPresent (tag : UInt16)
  | write (call : WriteCall)
  deriving DecidableEq

/-- What is done for one tag. -/
structure Case where
  tag : UInt16
  statements : List Statement
  deriving DecidableEq

/-- The body of a method. -/
inductive Body where
  | statements (statements : List Statement)
  /-- Goes through the tags found on the wire, and through the statements of each one's case. -/
  | eachWireTag (cases : List Case)
  /-- Goes through the tags in the presence bitmap, and through the statements of each one's
      case.  The tag is at hand under the name `tag`. -/
  | eachPresentTag (cases : List Case)
  deriving DecidableEq

/-! ## Classes -/

structure Parameter where
  type : JavaType
  name : String
  deriving DecidableEq

structure Method where
  /-- The type of the answer, if there is one. -/
  result : Option JavaType
  name : String
  parameters : List Parameter
  body : Body
  deriving DecidableEq

structure Member where
  type : JavaType
  name : String
  /-- The member starts with a new object of its type. -/
  fresh : Bool
  deriving DecidableEq

structure ClassDecl where
  name : String
  members : List Member
  methods : List Method
  deriving DecidableEq

/-- The member that holds the presence bitmap. -/
def presenceMember : String := "_tags"

/-! ## Spelling -/

/-- Moves a line to the right by levels of four blanks. -/
def indent (levels : Nat) (line : String) : String :=
  String.ofList (List.replicate (4 * levels) ' ') ++ line

def Expression.spelling : Expression → String
  | name id => id
  | isPresent tag => presenceMember ++ ".hasTag(" ++ toString tag.toNat ++ ")"
  | scaled id factor => id ++ " * " ++ floatLiteral factor
  | truncated type id factor =>
    "(" ++ type.spelling ++ ")(" ++ id ++ " * " ++ floatLiteral factor ++ ")"
  | read call => call.spelling

def Statement.spelling : Statement → String
  | answer value => "return " ++ value.spelling ++ ";"
  | assign member value => "this." ++ member ++ " = " ++ value.spelling ++ ";"
  | markPresent tag => presenceMember ++ ".setTag(" ++ toString tag.toNat ++ ");"
  | write call => call.spelling ++ ";"

def Case.lines (c : Case) : List String :=
  [indent 4 ("case " ++ toString c.tag.toNat ++ ":")] ++
    c.statements.map (fun s => indent 5 s.spelling) ++ [indent 5 "break;"]

def Body.lines : Body → List String
  | statements list => list.map fun s => indent 2 s.spelling
  | eachWireTag cases =>
    [indent 2 "int[] present = decoder.tags();",
     indent 2 "for (int i = 0; i < present.length; i++) \x7b",
     indent 3 "switch (present[i]) \x7b"] ++
      cases.flatMap Case.lines ++
    [indent 3 "\x7d", indent 2 "\x7d"]
  | eachPresentTag cases =>
    [indent 2 (presenceMember ++ ".each(tag -> \x7b"),
     indent 3 "switch (tag) \x7b"] ++
      cases.flatMap Case.lines ++
    [indent 3 "\x7d", indent 2 "\x7d);"]

def Parameter.spelling (parameter : Parameter) : String :=
  parameter.type.spelling ++ " " ++ parameter.name

/-- The type that a method is declared with. -/
def Method.resultSpelling (method : Method) : String :=
  match method.result with
  | none => "void"
  | some type => type.spelling

def Method.lines (method : Method) : List String :=
  [indent 1 ("public " ++ method.resultSpelling ++ " " ++ method.name ++ "(" ++
      ", ".intercalate (method.parameters.map Parameter.spelling) ++ ") \x7b")] ++
    method.body.lines ++ [indent 1 "\x7d"]

def Member.line (member : Member) : String :=
  indent 1 ("private " ++ member.type.spelling ++ " " ++ member.name ++
    (if member.fresh then " = new " ++ member.type.spelling ++ "()" else "") ++ ";")

/-- The lines of methods, with an empty line between each two. -/
def methodLines : List Method → List String
  | [] => []
  | [method] => method.lines
  | method :: methods => method.lines ++ [""] ++ methodLines methods

def ClassDecl.lines (decl : ClassDecl) : List String :=
  ["public class " ++ decl.name ++ " implements SprotoObject \x7b"] ++
    decl.members.map Member.line ++ [""] ++ methodLines decl.methods ++ ["\x7d"]

end WireSchema.Output
