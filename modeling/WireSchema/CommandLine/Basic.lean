import WireSchema.CommandLine.Arguments
import WireSchema.CommandLine.LogFilter
import WireSchema.Generation.Basic

/-! # The program

The program reads its settings, then the models, and then generates.  It reports on standard
output as far as its log filter lets it, and a failure on standard error.

* `Invocation.program` is what a run does.
* `RunError.report` is what a failure is reported with.
* `execute` carries a command line out on a tree.
-/

namespace WireSchema.CommandLine

/-! ## Failures -/

/-- Why a run fails. -/
inductive RunError where
  | configUnreadable (path : String) (cause : FileFault)
  | configInvalid (path : String) (cause : DecodeError)
  | generation (outDir : String) (cause : GenerateError)
  deriving DecidableEq

namespace RunError

/-- What was being done. -/
def context : RunError → String
  | configUnreadable path _ => "reading config " ++ path
  | configInvalid path _ => "parsing config " ++ path
  | generation outDir _ => "generating into " ++ outDir

/-- Why it failed, outermost first. -/
def causes : RunError → List String
  | configUnreadable _ cause => [cause.message]
  | configInvalid _ cause => [cause.message]
  | generation _ cause => cause.causes

/-- A text whose first line follows `first`, and whose further lines follow `next`. -/
def hang (first next : List Char) (text : String) : String :=
  match Text.splitAt '\n' text.toList with
  | [] => String.ofList first
  | line :: lines =>
    String.ofList (first ++ line ++ lines.flatMap fun more => '\n' :: (next ++ more))

/-- A number, right-aligned in five places. -/
def numbered (n : Nat) : List Char :=
  let digits := Nat.toDigits 10 n
  List.replicate (5 - digits.length) ' ' ++ digits ++ [':', ' ']

/-- The causes as they are listed: numbered if there are several. -/
def listed (causes : List String) : List String :=
  match causes with
  | [cause] => [hang [' ', ' ', ' ', ' '] [' ', ' ', ' ', ' '] cause]
  | _ =>
    causes.zipIdx.map fun (cause, n) => hang (numbered n) (List.replicate 7 ' ') cause

/-- What a failure is reported with. -/
def report (e : RunError) : String :=
  "\n".intercalate (["Error: " ++ e.context, "", "Caused by:"] ++ listed e.causes) ++ "\n"

end RunError

/-! ## Runs -/

namespace Invocation

/-- The settings of a run: those of the options, then those of the document, then the
    defaults. -/
def settings (invocation : Invocation) : FileProgram RunError Config := do
  let config ← match invocation.config with
    | none => pure Config.default
    | some path => do
      let text ← readText (.configUnreadable path) path
      .ofExcept ((Config.ofText text).mapError (.configInvalid path))
  let config := match invocation.out with
    | none => config
    | some outDir => { config with outDir := outDir }
  return match invocation.extension with
    | none => config
    | some extension => { config with extension := extension }

/-- What a run does. -/
def program (invocation : Invocation) : FileProgram RunError Report := do
  let config ← invocation.settings
  .log (.configured config)
  let report ← (generateFromFiles invocation.models config).mapError (.generation config.outDir)
  .log (.finished report.length)
  return report

/-- What the log of a run shows. -/
def filter (invocation : Invocation) : LogFilter :=
  .ofText (invocation.logLevel.getD LogFilter.standard)

end Invocation

/-! ## Results -/

/-- What a command line leaves behind. -/
structure Result where
  exitCode : Nat
  stdout : String
  stderr : String
  tree : FileTree

def versionText : String := "sprotogen 0.1.0\n"

def helpText : String :=
  "Generate Java sources from sproto schema models\n\n" ++
  "Usage: sprotogen [OPTIONS] <MODELS>...\n\n" ++
  "Arguments:\n" ++
  "  <MODELS>...  Module dumps to generate (JSON, one module per file)\n\n" ++
  "Options:\n" ++
  "  -o, --out <OUT>              Output root directory\n" ++
  "      --extension <EXTENSION>  Suffix of generated files\n" ++
  "      --config <CONFIG>        JSON file with generator settings; flags override it\n" ++
  "      --log-level <LOG_LEVEL>  Log filter, e.g. `info` or `sprotogen_codegen=debug` " ++
  "[default: info]\n" ++
  "  -h, --help                   Print help\n" ++
  "  -V, --version                Print version\n"

/-- What is shown for a command line that cannot be read. -/
def usageText (problem : UsageError) : String :=
  "error: " ++ problem.message ++ "\n\nUsage: sprotogen [OPTIONS] <MODELS>...\n\n" ++
    "For more information, try '--help'.\n"

/-- What the log shows of events, one to a line. -/
def logText (filter : LogFilter) (events : List Event) : String :=
  String.join ((events.filter filter.shows).map fun event => event.line ++ "\n")

/-- The exit code of a run, and what it says on standard error. -/
def verdict {α : Type} : Except RunError α → Nat × String
  | .ok _ => (0, "")
  | .error e => (1, e.report)

/-- Carries a command line out on a tree. -/
def execute (arguments : List String) (tree : FileTree) : Result :=
  match Command.ofArguments arguments with
  | .error problem => ⟨2, "", usageText problem, tree⟩
  | .ok .showVersion => ⟨0, versionText, "", tree⟩
  | .ok .showHelp => ⟨0, helpText, "", tree⟩
  | .ok (.generate invocation) =>
    let run := invocation.program.run tree
    let (exitCode, stderr) := verdict run.outcome
    ⟨exitCode, logText invocation.filter run.events, stderr, run.tree⟩

end WireSchema.CommandLine
