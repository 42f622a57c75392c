import WireSchema.CommandLine.Basic

/-! # The command on a disk

Carries the program of a command line out on the disk, prints the log as it goes, and ends with
the exit code of the run.
-/

namespace WireSchema.CommandLine

/-- Why an operation on the disk failed. -/
def faultOfError (e : IO.Error) : FileFault :=
  match e with
  | .noFileOrDirectory _ _ _ => .notFound
  | .alreadyExists _ _ _ => .alreadyExists
  | e => .other (toString e)

/-- Runs an operation on the disk and keeps its failure. -/
def attempt {α : Type} (action : IO α) : IO (Except FileFault α) := do
  try
    return .ok (← action)
  catch e =>
    return .error (faultOfError e)

/-- Carries a program out on the disk, and prints the events that the filter shows. -/
def perform {ε α : Type} (filter : LogFilter) : FileProgram ε α → IO (Except ε α)
  | .done outcome => return outcome
  | .report event next => do
    if filter.shows event then IO.println event.line
    perform filter next
  | .readFile path next => do
    let result ← attempt (IO.FS.readBinFile path)
    perform filter (next result)
  | .makeDirectories path next => do
    let result ← attempt (if path.isEmpty then pure () else IO.FS.createDirAll path)
    perform filter (next result)
  | .writeFile path contents next => do
    let result ← attempt (IO.FS.writeBinFile path contents)
    perform filter (next result)

end WireSchema.CommandLine

open WireSchema.CommandLine in
/-- Runs the command. -/
def main (arguments : List String) : IO UInt32 := do
  match Command.ofArguments arguments with
  | .error problem =>
    IO.eprint (usageText problem)
    return 2
  | .ok .showVersion =>
    IO.print versionText
    return 0
  | .ok .showHelp =>
    IO.print helpText
    return 0
  | .ok (.generate invocation) =>
    let (exitCode, stderr) := verdict (← perform invocation.filter invocation.program)
    IO.eprint stderr
    return exitCode.toUInt32
