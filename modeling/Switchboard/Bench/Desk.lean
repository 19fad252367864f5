/-
  The desk: several consoles whose writers may share buffers.

  Each seat holds a console until its writer is taken out.  A step gives the console of one seat the
  shared buffers, acts on it, and puts the buffers back.

  * `Desk.step` is one step, `Desk.run` a sequence of them with the answer to each.
-/
import Switchboard.Bench.Behaviour
import Switchboard.Greeting
import Switchboard.Session
import Switchboard.Text.Lossy

namespace Switchboard.Bench

variable {U : Universe}

instance {κ : Type} : Host κ Outlet where
  serial _ := 0
  add n := return n
  read := Console.read
  write := Console.write

/-- A console at the desk, apart from the shared buffers. -/
structure Seat (U : Universe) where
  out : Lock Writer
  tables : Standard → Table U Standard Outlet

/-- Shared buffers and `n` seats, of which some may be empty. -/
structure Desk (U : Universe) (n : Nat) where
  buffers : List SharedBuffer
  seats : Vector (Option (Seat U)) n

/-- What is done with the console of a seat. -/
inductive DeskAction (U : Universe) where
  /-- What can be done with any instance. -/
  | common (a : Action U Standard Outlet)
  | read
  | write (message : String)
  | bindDefaults
  | wire
  | run (g : Greeting)
  | detail
  | capabilities
  /-- Take the writer out, which leaves the seat empty. -/
  | intoWriter

/-- A writer that was taken out of its console. -/
inductive Recovered where
  | bytes (bytes : Bytes)
  /-- The text in the writer's buffer. -/
  | contents (text : String)
  | refusing
  /-- The numbers of answers that a script still holds. -/
  | left (writes flushes : Nat)

/-- What a step at the desk gives. -/
inductive DeskReply (U : Universe) where
  | common (r : Except Failure (Reply U))
  | text (s : String)
  | written (r : Except StreamError Unit)
  | capabilities (c : Capabilities)
  | recovered (r : Recovered)

/-- The answer to a step at the desk. -/
inductive DeskAnswer (U : Universe) where
  /-- The seat is empty. -/
  | consumed
  /-- The answer, and the number of bytes in each buffer. -/
  | answered (answer : Answer (DeskReply U)) (written : List Nat)

/-- What is recovered from a writer, given the shared buffers. -/
def Recovered.ofWriter (buffers : List SharedBuffer) : Writer → Recovered
  | .memory taken => .bytes taken
  | .shared b => .contents (Lossy.decode ((buffers.getD b (.new [])).bytes))
  | .refusing _ => .refusing
  | .scripted _ writes flushes => .left writes.length flushes.length

namespace DeskAction

/-- What an action does to its console and gives. -/
def apply (depth : Nat) : DeskAction U → Effect (Console U) (DeskReply U)
  | common a => return .common (← a.apply Standard.contract depth)
  | read => return .text (← Instance.perform Standard.contract depth Console.read)
  | write message =>
    return .written (← Instance.perform Standard.contract depth (Console.write message))
  | bindDefaults => return .common ((← Console.bindDefaults).map fun _ => .done)
  | wire => return .common ((← Console.wire).map fun _ => .done)
  | run g => return .common ((← Console.run depth g).map .line)
  | detail => fun c => ⟨.returned (.text c.detail), c, []⟩
  | capabilities => fun c => ⟨.returned (.capabilities c.capabilities), c, []⟩
  | intoWriter => fun c =>
    ⟨.returned (.recovered (.ofWriter c.data.buffers (Lock.recover c.data.out.take))), c, []⟩

/-- Whether the seat is empty after an action. -/
def consumes : DeskAction U → Bool
  | intoWriter => true
  | _ => false

/-- The table whose text belongs to the answer. -/
def shownTable : DeskAction U → Option Standard
  | common a => a.shownTable
  | _ => none

end DeskAction

namespace Desk

variable {n : Nat}

/-- Consoles with the given writers, empty tables and empty buffers. -/
def start (buffers : Nat) (writers : Vector Writer n) : Desk U n :=
  ⟨.replicate buffers (.new []), writers.map fun w => some ⟨.new w, fun k => .empty k.contract⟩⟩

/-- The console of a seat. -/
def console (d : Desk U n) (s : Seat U) : Console U :=
  ⟨⟨s.out, d.buffers⟩, s.tables⟩

/-- One step at seat `i`: the answer, and the desk after it. -/
def step (depth : Nat) (d : Desk U n) (i : Fin n) (a : DeskAction U) : DeskAnswer U × Desk U n :=
  match d.seats.get i with
  | none => (.consumed, d)
  | some s =>
    let r := a.apply depth (d.console s)
    let buffers := r.state.data.buffers
    let seat := if a.consumes then none else some ⟨r.state.data.out, r.state.tables⟩
    let table := a.shownTable.map fun k => (r.state.tables k).detail k.contract
    (.answered ⟨r.outcome, r.events, table⟩ (buffers.map (·.bytes.length)),
      ⟨buffers, d.seats.set i seat i.isLt⟩)

/-- A sequence of steps: the answer to each, and the desk at the end. -/
def run (depth : Nat) (d : Desk U n) : List (Fin n × DeskAction U) → List (DeskAnswer U) × Desk U n
  | [] => ([], d)
  | (i, a) :: rest =>
    let first := d.step depth i a
    let others := run depth first.2 rest
    (first.1 :: others.1, others.2)

end Desk

end Switchboard.Bench
