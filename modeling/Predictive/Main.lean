import Predictive.Command.Report

/-!
# The program

The command line reads its arguments, the file that they name, and prints the report.
-/

namespace Predictive

/-- The text of a file, or why it cannot be read. -/
def readSource (path : String) : IO (Except String String) := do
  try
    return .ok (← IO.FS.readFile path)
  catch error =>
    match error with
    | .noFileOrDirectory .. => return .error "No such file or directory (os error 2)"
    | other => return .error (toString other)

end Predictive

/-- Run the command line; the exit code is one if anything is wrong. -/
def main (arguments : List String) : IO UInt32 := do
  match Predictive.Invocation.ofArguments false false arguments with
  | .error complaint =>
      IO.eprintln (complaint ++ "\nRun predictive --help for more information.")
      return 1
  | .ok invocation =>
      let contents ← match invocation.path? with
        | some path => Predictive.readSource path
        | none => pure (.error "")
      let report := invocation.report fun _ => contents
      IO.print report.output
      match report.failure? with
      | none => return 0
      | some failure =>
          IO.eprintln failure.render
          return 1
