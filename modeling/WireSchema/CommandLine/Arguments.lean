/-! # The command line

The command line names the model files, and options that take a value each.  It is read from
left to right, and the first thing that decides what to do, or that is wrong, is the one that
counts.

* `Setting` is an option that takes a value.
* `Command` is what a command line asks for, and `UsageError` what is wrong with one.
* `Command.ofArguments` reads a command line.
-/

namespace WireSchema.CommandLine

/-! ## What can be asked for -/

/-- An option that takes a value. -/
inductive Setting where
  | out
  | extension
  | config
  | logLevel
  deriving DecidableEq, Repr

namespace Setting

/-- The name of an option, without its dashes. -/
def name : Setting → String
  | out => "out"
  | extension => "extension"
  | config => "config"
  | logLevel => "log-level"

def all : List Setting := [out, extension, config, logLevel]

def ofName? (name : String) : Option Setting := all.find? (·.name == name)

/-- Whether an option takes a path, which cannot be empty. -/
def isPath : Setting → Bool
  | out | config => true
  | extension | logLevel => false

end Setting

/-- What a run is asked to do. -/
structure Invocation where
  models : List String
  out : Option String
  extension : Option String
  config : Option String
  logLevel : Option String
  deriving DecidableEq, Repr

namespace Invocation

def empty : Invocation := ⟨[], none, none, none, none⟩

def value? (invocation : Invocation) : Setting → Option String
  | .out => invocation.out
  | .extension => invocation.extension
  | .config => invocation.config
  | .logLevel => invocation.logLevel

def withValue (invocation : Invocation) (setting : Setting) (value : String) : Invocation :=
  match setting with
  | .out => { invocation with out := some value }
  | .extension => { invocation with extension := some value }
  | .config => { invocation with config := some value }
  | .logLevel => { invocation with logLevel := some value }

end Invocation

/-- What a command line asks for. -/
inductive Command where
  | showVersion
  | showHelp
  | generate (invocation : Invocation)
  deriving DecidableEq, Repr

/-- What is wrong with a command line. -/
inductive UsageError where
  | noModel
  | emptyModel
  | unknownOption (argument : String)
  | missingValue (setting : Setting)
  | emptyValue (setting : Setting)
  | repeated (setting : Setting)
  | unwantedValue (argument : String)
  deriving DecidableEq, Repr

def UsageError.message : UsageError → String
  | noModel => "the following required arguments were not provided:\n  <MODELS>..."
  | emptyModel => "a value is required for '<MODELS>...' but none was supplied"
  | unknownOption argument => "unexpected argument '" ++ argument ++ "' found"
  | missingValue setting | emptyValue setting =>
    "a value is required for '--" ++ setting.name ++ "' but none was supplied"
  | repeated setting =>
    "the argument '--" ++ setting.name ++ "' cannot be used multiple times"
  | unwantedValue argument => "unexpected value in '" ++ argument ++ "' found"

/-! ## Single arguments -/

/-- What an argument says by itself. -/
inductive Argument where
  | model (path : String)
  /-- Everything after it is a model. -/
  | onlyModels
  | version
  | help
  /-- An option, with its value if that is part of the argument. -/
  | setting (setting : Setting) (value : Option String)
  | bad (problem : UsageError)

/-- Cuts a text at its first equality sign. -/
def splitAtEquals : List Char → List Char × Option (List Char)
  | [] => ([], none)
  | c :: cs =>
    if c = '=' then ([], some cs)
    else
      let (before, after) := splitAtEquals cs
      (c :: before, after)

/-- Reads an argument after two dashes. -/
def longArgument (argument : String) (cs : List Char) : Argument :=
  let (name, value) := splitAtEquals cs
  let name := String.ofList name
  if name = "version" ∨ name = "help" then
    if value.isSome then .bad (.unwantedValue argument)
    else if name = "version" then .version
    else .help
  else
    match Setting.ofName? name with
    | some setting => .setting setting (value.map String.ofList)
    | none => .bad (.unknownOption argument)

/-- Reads an argument after one dash.  What follows the letter of an option is its value, with
    or without an equality sign. -/
def shortArgument (argument : String) : List Char → Argument
  | 'V' :: _ => .version
  | 'h' :: _ => .help
  | ['o'] => .setting .out none
  | 'o' :: '=' :: value => .setting .out (some (String.ofList value))
  | 'o' :: value => .setting .out (some (String.ofList value))
  | _ => .bad (.unknownOption argument)

/-- Reads an argument.  A dash alone is a model. -/
def Argument.read (argument : String) : Argument :=
  match argument.toList with
  | ['-', '-'] => .onlyModels
  | '-' :: '-' :: cs => longArgument argument cs
  | ['-'] => .model argument
  | '-' :: cs => shortArgument argument cs
  | _ => .model argument

/-- Whether an argument can be the value of the option before it. -/
def isValue (argument : String) : Bool :=
  match Argument.read argument with
  | .model _ => true
  | _ => false

/-! ## Whole command lines -/

def addModel (invocation : Invocation) (path : String) : Except UsageError Invocation :=
  if path.isEmpty then .error .emptyModel
  else .ok { invocation with models := invocation.models ++ [path] }

/-- Gives an option its value.  An option is given once, and a path is not empty. -/
def addValue (invocation : Invocation) (setting : Setting) (value : String) :
    Except UsageError Invocation :=
  if (invocation.value? setting).isSome then .error (.repeated setting)
  else if setting.isPath && value.isEmpty then .error (.emptyValue setting)
  else .ok (invocation.withValue setting value)

/-- A run has at least one model. -/
def finish (invocation : Invocation) : Except UsageError Command :=
  if invocation.models.isEmpty then .error .noModel else .ok (.generate invocation)

/-- Reads arguments that are all models. -/
def readModels : Invocation → List String → Except UsageError Command
  | invocation, [] => finish invocation
  | invocation, path :: paths => do
    let invocation ← addModel invocation path
    readModels invocation paths

/-- Reads arguments, with what has been read before them. -/
def readArguments : Invocation → List String → Except UsageError Command
  | invocation, [] => finish invocation
  | invocation, argument :: arguments =>
    match Argument.read argument with
    | .version => .ok .showVersion
    | .help => .ok .showHelp
    | .bad problem => .error problem
    | .onlyModels => readModels invocation arguments
    | .model path => do
      let invocation ← addModel invocation path
      readArguments invocation arguments
    | .setting setting (some value) => do
      let invocation ← addValue invocation setting value
      readArguments invocation arguments
    | .setting setting none =>
      match arguments with
      | [] => .error (.missingValue setting)
      | value :: arguments =>
        -- What begins like an option is never taken for a value.
        if isValue value then do
          let invocation ← addValue invocation setting value
          readArguments invocation arguments
        else .error (.missingValue setting)

/-- Reads a command line, without the name of the program. -/
def Command.ofArguments (arguments : List String) : Except UsageError Command :=
  readArguments .empty arguments

end WireSchema.CommandLine
