import PathRouting.CommandLine.Host

/-!
# The command line program

Reads the configuration file that the arguments name and runs the command.
-/

open PathRouting.CommandLine

def readFailure : IO.Error → String
  | .noFileOrDirectory .. => "No such file or directory (os error 2)"
  | e => toString e

/-- Reads a file, or says why it cannot be read. -/
def readConfig (path : String) : IO (Except String String) := do
  try
    return .ok (← IO.FS.readFile path)
  catch e =>
    return .error (readFailure e)

/-- Runs the command that the arguments name. -/
def main (args : List String) : IO UInt32 := do
  let content ← match (Command.parse? args).bind Command.config? with
    | some path => readConfig path
    | none => pure (.error "")
  let report := PathRouting.CommandLine.run (.ofFiles fun _ => content) args
  (← IO.getStdout).putStr report.out
  (← IO.getStderr).putStr report.err
  return report.exitCode.toUInt32
