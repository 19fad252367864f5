/-
  Consoles: instances that read a fixed greeting and write lines to a writer.

  A console can be used directly (`Console.read`, `Console.write`) and through its tables, which
  start empty.  `Console.bindDefaults` binds the console's own reading and writing.

  * `Console.capabilities` tells which tables are complete.
-/
import Switchboard.Instance
import Switchboard.Standard
import Switchboard.Writer

namespace Switchboard

variable {U : Universe}

/-- A console: tables for the standard contracts, and an outlet to write to. -/
abbrev Console (U : Universe) := Instance U Standard Outlet

namespace Console

variable {κ : Type}

/-- The text that every console reads. -/
def greeting : String := "hello"

/-- A console's own reading. -/
def read : Routine U κ Outlet String :=
  .done greeting

/-- A console's own writing: take the lock, deliver the message as a line, and report it if that
    succeeded.  A lock that an earlier panic poisoned gives the writer all the same. -/
def write (message : String) : Routine U κ Outlet (Except StreamError Unit) :=
  .get fun outlet =>
    let d := (Lock.recover outlet.out.take).writeLine message
    .set (outlet.receive d) <|
      match d.outcome with
      | .done => .emit (.wroteLine (byteLength message + 1)) (.done (.ok ()))
      | .failed e => .done (.error e)
      | .panicked m => .panic m

/-- A console's own reading, to be bound. -/
def readBinding : Binding U κ Outlet :=
  ⟨.tuple [], .text, fun _ => read⟩

/-- A console's own writing, to be bound. -/
def writeBinding : Binding U κ Outlet :=
  ⟨.tuple [.text], .written, fun args => write args.1⟩

/-- A console with empty tables. -/
def withOutlet (outlet : Outlet) : Console U :=
  .fresh Standard.contract outlet

/-- Bind the console's own reading and writing into its tables. -/
def bindDefaults : Effect (Console U) (Except Failure Unit) := do
  match ← Instance.onTable .readable (Table.bind Standard.readable.contract "read" readBinding) with
  | .error e => return .error e
  | .ok () => Instance.onTable .writable (Table.bind Standard.writable.contract "write" writeBinding)

/-- The capabilities whose tables are complete. -/
def capabilities (c : Console U) : Capabilities :=
  (Capabilities.empty.set .readable (c.tables .readable).isComplete).set .writable
    (c.tables .writable).isComplete

/-- The text of a console: its two tables. -/
def detail (c : Console U) : String :=
  let readable := (c.tables .readable).detail Standard.readable.contract
  let writable := (c.tables .writable).detail Standard.writable.contract
  s!"Console \x7b readable: {readable}, writable: {writable}, .. \x7d"

end Console

end Switchboard
