/-
  Writers: where a console's bytes go.

  A writer is asked to take bytes and answers by taking some of them, by failing, or by panicking.
  A scripted writer answers from a list and takes everything once the list is used up.  Writing all
  of a sequence (`transfer`) asks again for what was not taken and after an interruption; an empty
  sequence is not offered at all.  A line is its message, then a newline, then a flush
  (`Writer.writeLine`).

  What a writer delivers depends on the writer and the message alone (`Delivery`); where the bytes
  end up is another matter (`Outlet`).  A console's writer is behind a lock, and so are the bytes of
  each buffer (`SharedBuffer`).

  * `SharedBuffer.bytes_append`: what a buffer holds after more bytes arrived in it, poisoned or not.
-/
import Switchboard.Effect
import Switchboard.Lock

namespace Switchboard

/-! ## Answers of a writer -/

/-- A writer's answer to the offer of some bytes. -/
inductive WriteReply where
  /-- Take the first `n` of them, or all if there are fewer. -/
  | accept (n : Nat)
  | fail (e : StreamError)
  | panic
  deriving DecidableEq

/-- A writer's answer to a flush. -/
inductive FlushReply where
  | done
  | fail (e : StreamError)
  | panic
  deriving DecidableEq

/-- An output that takes no byte, and the error it gives. -/
inductive Refusal where
  /-- The output was closed. -/
  | outputClosed
  /-- The device has no space left. -/
  | deviceFull
  /-- Nobody reads from the pipe. -/
  | brokenPipe
  deriving DecidableEq

/-- The error of an output that takes no byte.  It is never an interruption. -/
def Refusal.error : Refusal → StreamError
  | outputClosed => .outputClosed
  | deviceFull => .system .deviceFull
  | brokenPipe => .system .brokenPipe

/-- A writer. -/
inductive Writer where
  /-- Takes everything into a shared buffer. -/
  | shared (buffer : Nat)
  /-- Takes everything into memory of its own. -/
  | memory (bytes : Bytes)
  /-- Takes nothing. -/
  | refusing (r : Refusal)
  /-- Answers from two lists, and delivers what it takes into a shared buffer. -/
  | scripted (buffer : Nat) (writes : List WriteReply) (flushes : List FlushReply)
  deriving DecidableEq

/-- How writing ended. -/
inductive WriteOutcome where
  | done
  | failed (e : StreamError)
  | panicked (message : String)
  deriving DecidableEq

/-- Whether a panic ended it. -/
def WriteOutcome.isPanic : WriteOutcome → Bool
  | panicked _ => true
  | _ => false

/-! ## Writing all of a sequence -/

/-- A finished transfer: how it ended, the bytes that were taken and the answers left over. -/
structure Transfer where
  outcome : WriteOutcome
  delivered : Bytes
  left : List WriteReply
  deriving DecidableEq

/-- Offer a sequence until all of it is taken.  Taking nothing of a non-empty offer is an error, and
    so is any failure but an interruption. -/
def transfer : List WriteReply → Bytes → Transfer
  | replies, [] => ⟨.done, [], replies⟩
  | [], data => ⟨.done, data, []⟩
  | .accept n :: replies, data =>
    if n = 0 then ⟨.failed .wroteNothing, [], replies⟩
    else
      let t := transfer replies (data.drop n)
      { t with delivered := data.take n ++ t.delivered }
  | .fail e :: replies, data =>
    if e.kind = .interrupted then transfer replies data
    else ⟨.failed e, [], replies⟩
  | .panic :: replies, _ => ⟨.panicked "writer panicked", [], replies⟩

/-! ## Lines -/

/-- What a writer made of some bytes: how it ended, the bytes it took, and the writer afterwards. -/
structure Delivery where
  outcome : WriteOutcome
  delivered : Bytes
  writer : Writer
  deriving DecidableEq

namespace Delivery

/-- Go on if all went well, with the writer as it is now; the bytes taken add up. -/
def andThen (d : Delivery) (f : Writer → Delivery) : Delivery :=
  match d.outcome with
  | .done =>
    let d' := f d.writer
    { d' with delivered := d.delivered ++ d'.delivered }
  | _ => d

end Delivery

namespace Writer

/-- Write all of a sequence. -/
def writeAll : Writer → Bytes → Delivery
  | shared b, data => ⟨.done, data, shared b⟩
  | memory bytes, data => ⟨.done, data, memory (bytes ++ data)⟩
  | refusing r, data =>
    ⟨if data.isEmpty then .done else .failed r.error, [], refusing r⟩
  | scripted b writes flushes, data =>
    let t := transfer writes data
    ⟨t.outcome, t.delivered, scripted b t.left flushes⟩

/-- Flush.  An interruption is an error here. -/
def flush : Writer → Delivery
  | scripted b writes [] => ⟨.done, [], scripted b writes []⟩
  | scripted b writes (reply :: flushes) =>
    let outcome := match reply with
      | .done => WriteOutcome.done
      | .fail e => .failed e
      | .panic => .panicked "flush panicked"
    ⟨outcome, [], scripted b writes flushes⟩
  | w => ⟨.done, [], w⟩

/-- Write a message and a newline, then flush.  The first failure ends it. -/
def writeLine (w : Writer) (message : String) : Delivery :=
  ((w.writeAll (utf8 message)).andThen (·.writeAll (utf8 "\n"))).andThen flush

/-- The shared buffer into which a writer delivers. -/
def buffer? : Writer → Option Nat
  | shared b | scripted b _ _ => some b
  | memory _ | refusing _ => none

end Writer

/-! ## Buffers and outlets -/

/-- The bytes of a buffer, which several writers may share. -/
abbrev SharedBuffer := Lock Bytes

namespace SharedBuffer

/-- The bytes written so far, also if the lock is poisoned. -/
def bytes (b : SharedBuffer) : Bytes :=
  Lock.recover b.take

/-- Append bytes, also if the lock is poisoned.  Appending does not panic. -/
def append (b : SharedBuffer) (more : Bytes) : SharedBuffer :=
  b.release (Lock.recover b.take ++ more) false

@[simp]
theorem bytes_append (b : SharedBuffer) (more : Bytes) :
    (b.append more).bytes = b.bytes ++ more := by
  simp [bytes, append, Lock.release]

@[simp]
theorem append_nil (b : SharedBuffer) : b.append [] = b := by
  simp [append]

@[simp]
theorem append_append (b : SharedBuffer) (more rest : Bytes) :
    (b.append more).append rest = b.append (more ++ rest) := by
  simp [append, Lock.release]

end SharedBuffer

/-- Append bytes to one of several buffers. -/
def appendTo (buffers : List SharedBuffer) (b : Nat) (bytes : Bytes) : List SharedBuffer :=
  buffers.modify b (·.append bytes)

/-- A writer behind its lock, together with the shared buffers. -/
structure Outlet where
  out : Lock Writer
  buffers : List SharedBuffer

namespace Outlet

/-- The writer, whether its lock is poisoned or not. -/
abbrev writer (p : Outlet) : Writer := p.out.value

/-- An outlet after a delivery.  The bytes taken are in the writer's buffer, and the lock, which was
    held all the while, is poisoned if a panic ended the delivery. -/
def receive (p : Outlet) (d : Delivery) : Outlet :=
  ⟨p.out.release d.writer d.outcome.isPanic, match p.writer.buffer? with
    | some b => appendTo p.buffers b d.delivered
    | none => p.buffers⟩

end Outlet

end Switchboard
