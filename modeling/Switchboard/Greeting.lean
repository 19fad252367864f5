/-
  Greetings: read through one table, write through the other.

  `greet` works on any instance with tables for the standard contracts, whatever is bound there.
  `Console.wire` binds a console's own reading and writing, and `Console.run` wires a console and
  greets.
-/
import Switchboard.Console

namespace Switchboard

variable {U : Universe}

/-- The settings of a greeting. -/
structure Greeting where
  /-- What follows the text that was read. -/
  suffix : String := " world!"
  deriving DecidableEq

namespace Greeting

/-- The text of the settings. -/
def detail (g : Greeting) : String :=
  s!"DriverConfig \x7b suffix: {quoted g.suffix} \x7d"

end Greeting

/-- Read a text through the table, append the suffix, and write the line through the table; gives the
    line written. -/
def greet {κ D : Type} [HasStandard κ] (g : Greeting) : Routine U κ D (Except Failure String) := do
  match ← Routine.read with
  | .error e => return .error e
  | .ok text =>
    let line := text ++ g.suffix
    match ← Routine.write line with
    | .error e => return .error e
    | .ok (.error e) => return .error (.stream e)
    | .ok (.ok ()) => .emit (.greeted (byteLength line)) (return .ok line)

namespace Console

/-- Bind the console's own reading and writing, and report the capabilities it has then. -/
def wire : Effect (Console U) (Except Failure Unit) := do
  match ← Instance.bind Standard.contract .readable "read" readBinding with
  | .error e => return .error e
  | .ok () =>
    match ← Instance.bind Standard.contract .writable "write" writeBinding with
    | .error e => return .error e
    | .ok () => fun c => ⟨.returned (.ok ()), c, [.wired c.capabilities]⟩

/-- Wire a console and greet; gives the line written. -/
def run (depth : Nat) (g : Greeting) : Effect (Console U) (Except Failure String) := do
  match ← wire with
  | .error e => return .error e
  | .ok () => Instance.perform Standard.contract (depth + 1) (greet g)

end Console

end Switchboard
