/-
  Handles: shared buffers used directly as writers.

  Handles are numbered as they are made.  A clone shares the bytes of its handle; the handle of a
  failing writer refuses every byte.
-/
import Switchboard.Text.Lossy
import Switchboard.Writer

namespace Switchboard.Bench

/-- The buffers made so far, and for each handle the buffer it writes to, if it takes bytes at all. -/
structure Handles where
  buffers : List SharedBuffer := []
  handles : List (Option Nat) := []

/-- What is done with handles. -/
inductive HandleStep where
  /-- Make a buffer. -/
  | new
  /-- Make a failing writer. -/
  | failing
  | clone (on : Nat)
  /-- Offer bytes once. -/
  | write (on : Nat) (bytes : Bytes)
  | writeAll (on : Nat) (bytes : Bytes)
  | flush (on : Nat)
  /-- The text of the bytes. -/
  | contents (on : Nat)
  | bytes (on : Nat)
  | detail (on : Nat)

/-- What a step with handles gives. -/
inductive HandleReply where
  | done
  /-- A handle's number or a number of bytes. -/
  | count (n : Nat)
  | text (s : String)
  | failed (e : StreamError)
  /-- There is no such handle, or it has no bytes to show. -/
  | missing

namespace Handles

/-- The text of a buffer: the values of its bytes, and whether its lock is poisoned. -/
def bufferDetail (b : SharedBuffer) : String :=
  let values := String.intercalate ", " (b.bytes.map (·.toNat.repr))
  s!"SharedBuffer \x7b bytes: Mutex \x7b data: [{values}], poisoned: {b.poisoned}, .. \x7d \x7d"

/-- Add a handle; gives its number. -/
def add (s : Handles) (h : Option Nat) : HandleReply × Handles :=
  (.count s.handles.length, { s with handles := s.handles ++ [h] })

/-- A buffer by its number. -/
def buffer (s : Handles) (b : Nat) : SharedBuffer :=
  s.buffers.getD b (.new [])

/-- One step: the reply, and the handles after it. -/
def step (s : Handles) : HandleStep → HandleReply × Handles
  | .new => { s with buffers := s.buffers ++ [Lock.new []] }.add (some s.buffers.length)
  | .failing => s.add none
  | .clone i =>
    match s.handles[i]? with
    | some h => s.add h
    | none => (.missing, s)
  | .write i data =>
    match s.handles[i]? with
    | some (some b) => (.count data.length, { s with buffers := appendTo s.buffers b data })
    | some none => (.failed .outputClosed, s)
    | none => (.missing, s)
  | .writeAll i data =>
    match s.handles[i]? with
    | some (some b) => (.done, { s with buffers := appendTo s.buffers b data })
    | some none => (if data.isEmpty then .done else .failed .outputClosed, s)
    | none => (.missing, s)
  | .flush i => (if i < s.handles.length then .done else .missing, s)
  | .contents i =>
    match s.handles[i]? with
    | some (some b) => (.text (Lossy.decode (s.buffer b).bytes), s)
    | _ => (.missing, s)
  | .bytes i =>
    match s.handles[i]? with
    | some (some b) => (.text (hex (s.buffer b).bytes), s)
    | _ => (.missing, s)
  | .detail i =>
    match s.handles[i]? with
    | some (some b) => (.text (bufferDetail (s.buffer b)), s)
    | some none => (.text "FailingWriter", s)
    | none => (.missing, s)

/-- A sequence of steps: the reply to each. -/
def run (s : Handles) : List HandleStep → List HandleReply
  | [] => []
  | st :: rest =>
    let first := s.step st
    first.1 :: run first.2 rest

end Handles

end Switchboard.Bench
