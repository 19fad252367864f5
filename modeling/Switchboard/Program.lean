/-
  Whole runs of the program: from its settings to its standard output and diagnostics.

  The program sets up its diagnostics, runs the greeting on a console that writes to standard output,
  and reports a failed greeting as an event.  Its exit code is always zero.
-/
import Switchboard.Greeting
import Switchboard.Log.Line
import Switchboard.Text.Lossy

namespace Switchboard

/-- Where standard output goes. -/
inductive Output where
  /-- To somebody who reads it. -/
  | pipe
  /-- To a device without space. -/
  | full
  /-- To a pipe that nobody reads. -/
  | closed
  deriving DecidableEq

/-- The writer behind standard output; a pipe's bytes are collected in buffer `0`. -/
def Output.writer : Output → Writer
  | pipe => .shared 0
  | full => .refusing .deviceFull
  | closed => .refusing .brokenPipe

/-- The settings of a run of the program. -/
structure Program where
  log : Log.Config := {}
  /-- The text of the filter. -/
  filter : String := ""
  /-- Diagnostics are set up a second time, which only repeats the notices. -/
  twice : Bool := false
  greeting : Greeting := {}
  output : Output := .pipe
  /-- The event that reports a failed greeting. -/
  onFailure : Failure → Event := .programFailed

/-- What a finished program leaves. -/
structure Program.Report where
  code : Nat
  stdout : String
  /-- The lines of standard error. -/
  stderr : List String

namespace Program

/-- The run of the greeting on a fresh console. -/
def run (p : Program) : Run (Console .empty) (Except Failure String) :=
  Console.run 0 p.greeting (Console.withOutlet ⟨.new p.output.writer, [.new []]⟩)

/-- The events of the program: those of the greeting, and one more if it failed. -/
def events (p : Program) : List Event :=
  let r := p.run
  r.events ++ match r.outcome with
    | .returned (.error e) => [p.onFailure e]
    | _ => []

/-- What the program leaves. -/
def report (p : Program) : Report :=
  let parsed := Log.Filter.parse p.filter
  { code := 0
    stdout := Lossy.decode (p.run.state.data.buffers.flatMap (·.bytes))
    stderr := lines <| String.join <| List.map (· ++ "\n") <|
      parsed.2 ++ (if p.twice then parsed.2 else []) ++
        Log.lines p.log (parsed.1.orLevel p.log.level) p.events }

end Program

end Switchboard
