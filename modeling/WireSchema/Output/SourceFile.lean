import WireSchema.Output.EnumClass
import WireSchema.Output.StructClass

/-! # Generated source files

A source file holds a banner, the namespace of its type, the imports that its type needs, and
the type.

* `SourceFile.text` spells a file.
* `Scope.sourceOf` is the file of a declaration.
* `Scope.render` renders every declaration of a module.
-/

namespace WireSchema

open Output

/-! ## Text -/

/-- Ends every line. -/
def Output.joinLines (lines : List String) : String :=
  String.join (lines.map (· ++ "\n"))

/-- A source file. -/
structure Output.SourceFile where
  banner : String
  /-- The namespace of the type; the empty one is not written. -/
  placement : String
  imports : List String
  /-- The lines of the type. -/
  body : List String

namespace Output.SourceFile

def placementLines (placement : String) : List String :=
  if placement.isEmpty then [] else ["package " ++ placement ++ ";", ""]

def importLines : List String → List String
  | [] => []
  | imports => imports.map (fun name => "import " ++ name ++ ";") ++ [""]

def text (file : SourceFile) : String :=
  joinLines
    ([file.banner, ""] ++ placementLines file.placement ++ importLines file.imports ++ file.body)

end Output.SourceFile

def Output.structImports : List String :=
  ["java.util.*", "java.nio.ByteBuffer", "sproto.*", "static sproto.Util.enums"]

/-! ## Declarations -/

/-- The source of a struct that is placed in `placement`. -/
def Scope.structSource (scope : Scope) (banner placement : String) (struct : StructDecl) :
    Logged FieldError String := do
  let decl ← scope.classOf placement struct
  return ({ banner := banner, placement := placement, imports := structImports,
            body := decl.lines } : SourceFile).text

/-- The source of an enum that is placed in `placement`. -/
def EnumDecl.source (banner placement : String) (enum : EnumDecl) : String :=
  ({ banner := banner, placement := placement, imports := [],
     body := enum.toClass.lines } : SourceFile).text

/-- A source that has not been written yet. -/
structure RenderedFile where
  /-- The namespace that the type is placed in. -/
  placement : String
  typeName : String
  contents : String
  deriving DecidableEq

/-- The event that opens the rendering of a declaration. -/
def Declaration.renderingEvent (declaration : Declaration) (placement : String) : Event :=
  match declaration with
  | .struct decl => .renderingStruct decl.name placement
  | .enum decl => .renderingEnum decl.name placement

/-- The source of a declaration that is placed in `placement`. -/
def Scope.sourceOf (scope : Scope) (banner placement : String) :
    Declaration → Logged FieldError String
  | .struct decl => scope.structSource banner placement decl
  | .enum decl => return decl.source banner placement

def Scope.renderDeclaration (scope : Scope) (banner : String) (module : Module)
    (declaration : Declaration) : Logged FieldError RenderedFile := do
  let placement := scope.placementOf module declaration
  Logged.report (declaration.renderingEvent placement)
  let contents ← scope.sourceOf banner placement declaration
  return ⟨placement, declaration.name, contents⟩

/-- Renders every declaration of a module, structs first, up to the first failure.  References
    are looked up in the scope of the module. -/
def Scope.render (scope : Scope) (banner : String) (module : Module) :
    Logged FieldError (List RenderedFile) :=
  Logged.forEach ((scope.within module).renderDeclaration banner module) module.declarations

end WireSchema
