import BudgetNotes.CommandLine

/-!
# The program

The outer layer: it reads the files that the command line names, runs the
program on them, and prints what comes out.
-/

open BudgetNotes

/-- The content of a file, if it can be read. -/
def contentOf? (path : String) : IO (Option String) := do
  try
    let content ← IO.FS.readFile path
    return some content
  catch _ => return none

/-- The files that a command line names. -/
def filesOf (args : List String) : List String :=
  match CommandLine.read? Options.none args with
  | some (.run options _ file) => options.config.toList ++ [file]
  | _ => []

/-- What is printed on the standard error after the first words of a result. -/
def detailsOf : RunResult → String
  | .failed e =>
    (e.cause.map fun cause => "\n\nCaused by:\n    " ++ cause).getD "" ++ "\n"
  | .usageError => CommandLine.usageLine ++ "\n"
  | _ => ""

def main (args : List String) : IO UInt32 := do
  let files ← (filesOf args).mapM fun path => do
    let content ← contentOf? path
    return (path, content)
  let seed ← IO.rand 0 340282366920938463463374607431768211455
  let result := runProgram (draftName seed) (fun path => (files.lookup path).join) args
  let out ← IO.getStdout
  let err ← IO.getStderr
  out.putStr result.stdout
  err.putStr (result.stderr ++ detailsOf result)
  return UInt32.ofNat result.exitCode
