/-
  The command line: greet on standard output, with diagnostics on standard error.

  Arguments are ignored.  The variable `RUST_LOG` holds the filter of the diagnostics.
-/
import Switchboard.Program

namespace Switchboard

/-- Write the program's standard output; tells how the output took it. -/
def deliver (text : String) : IO Output := do
  let stdout ← IO.getStdout
  try
    stdout.putStr text
    stdout.flush
    return .pipe
  catch
    | .resourceVanished _ _ => return .closed
    | _ => return .full

end Switchboard

open Switchboard

/-- Run the program. -/
def main (_ : List String) : IO UInt32 := do
  let filter := (← IO.getEnv "RUST_LOG").getD ""
  let program : Program := { filter }
  let output ← deliver program.report.stdout
  let report := { program with output : Program }.report
  let stderr ← IO.getStderr
  for line in report.stderr do
    stderr.putStrLn line
  return report.code.toUInt32
