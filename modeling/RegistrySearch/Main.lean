import RegistrySearch.CommandLine.Run

/-!
# The program

The outer layer: it reads files, makes directories and prints, and leaves every decision to
`CommandLine.run`.
-/

open RegistrySearch.CommandLine

/-- The files of the machine. -/
def machineFiles : FileSystem IO where
  text? path := do
    try
      return some (← IO.FS.readFile path)
    catch _ => return none
  makeDirectory path := do
    try
      IO.FS.createDirAll path
      return true
    catch _ => return false

/-- The environment of the program. -/
def readEnvironment : IO Environment := do
  return {
    temporary := (← IO.getEnv "TMPDIR").getD "/tmp"
    indexRoot? := ← IO.getEnv "REGSEARCH_INDEX_ROOT"
    color := (← IO.getEnv "NO_COLOR").isNone && (← (← IO.getStdout).isTty) }

/-- Runs the program on its arguments. -/
def main (arguments : List String) : IO UInt32 := do
  let outcome ← run machineFiles (← readEnvironment) arguments
  IO.print outcome.output
  match outcome.message? with
  | some message => IO.eprintln ("error: " ++ message)
  | none => pure ()
  return UInt32.ofNat outcome.exitCode
