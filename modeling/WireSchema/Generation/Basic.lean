import WireSchema.Generation.Error
import WireSchema.Generation.Program
import WireSchema.Output.SourceFile
import WireSchema.Schema.Decode

/-! # Runs

A run renders the declarations of its modules one after the other and writes each of them as
soon as it is rendered.  The first failure ends it; what has been written by then stays.

* `emitContents` writes one file, and `emit` one that has been rendered.
* `generate` runs over modules, `generateModule` over one module of a registry.
* `loadModule` reads a module, and `generateFromFiles` reads all modules before it runs.
-/

namespace WireSchema

/-- The paths that a run has written, in the order of writing. -/
abbrev Report := List String

/-! ## Writing -/

/-- Writes contents to the file of a type, below the root of the settings.  The directories
    around it are made where they are missing. -/
def emitContents (root extension placement typeName : String) (contents : ByteArray) :
    FileProgram GenerateError String := do
  let path ← .ofExcept ((outputPath root extension placement typeName).mapError .placement)
  match Path.parent? path with
  | none => pure ()
  | some directory => .makeAll (.unwritable directory) directory
  .write (.unwritable path) path contents
  .log (.wrote path contents.size)
  return path

/-- Writes a rendered file. -/
def emit (root extension : String) (file : RenderedFile) : FileProgram GenerateError String :=
  emitContents root extension file.placement file.typeName file.contents.toUTF8

/-! ## Generating -/

/-- Renders a declaration of a module and writes it. -/
def generateDeclaration (scope : Scope) (config : Config) (module : Module)
    (declaration : Declaration) : FileProgram GenerateError String := do
  let file ← .ofLogged ((scope.renderDeclaration config.banner module declaration).mapError
    .field)
  emit config.outDir config.extension file

/-- Generates every declaration of a module.  References are looked up in the scope of the
    module. -/
def generateModule (scope : Scope) (config : Config) (module : Module) :
    FileProgram GenerateError Report := do
  let paths ← .forEach (generateDeclaration (scope.within module) config module)
    module.declarations
  -- A module that fails is not reported as done.
  .log (.generated paths.length module.name)
  return paths

/-- Generates every declaration of modules that may refer to each other. -/
def generate (modules : List Module) (config : Config) : FileProgram GenerateError Report := do
  let scope := Scope.global modules config.namespaceTag
  let reports ← .forEach (generateModule scope config) modules
  return reports.flatten

/-! ## Loading -/

def readText {ε : Type} (wrap : FileFault → ε) (path : String) : FileProgram ε String := do
  let contents ← .read wrap path
  match String.fromUTF8? contents with
  | some text => return text
  | none => .ofExcept (.error (wrap .notText))

def loadModule (path : String) : FileProgram LoadError Module := do
  let text ← readText (.unreadable path) path
  .ofExcept ((Module.ofText text).mapError .invalid)

/-- Reads all modules from their files, and generates them if none is refused. -/
def generateFromFiles (paths : List String) (config : Config) :
    FileProgram GenerateError Report := do
  -- All modules are read before the first file is written.
  let modules ← (FileProgram.forEach loadModule paths).mapError .load
  generate modules config

end WireSchema
