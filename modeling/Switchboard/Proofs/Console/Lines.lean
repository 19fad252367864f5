/-
  What a console writes.

  A console's own writing hands a line to the writer and reports how that ended.  With a scripted
  writer the line arrives whole or is cut short, and only the answers that were used decide which.

  * `perform_write`: writing on an instance is one delivery to its outlet;
  * `write_delivers_line`: what arrives, which answers are used, and when writing succeeds.
-/
import Switchboard.Console
import Switchboard.Proofs.Delivery

namespace Switchboard

variable {U : Universe}

/-- The outcome of a routine that reports how writing ended. -/
def WriteOutcome.toOutcome : WriteOutcome → Outcome (Except StreamError Unit)
  | done => .returned (.ok ())
  | failed e => .returned (.error e)
  | panicked m => .panicked m

theorem WriteOutcome.toOutcome_eq_ok_iff {w : WriteOutcome} :
    w.toOutcome = .returned (.ok ()) ↔ w = .done := by
  cases w <;> simp [toOutcome]

@[simp]
theorem WriteOutcome.isPanic_toOutcome (w : WriteOutcome) : w.toOutcome.isPanic = w.isPanic := by
  cases w <;> rfl

theorem WriteOutcome.toOutcome_ne_exhausted (w : WriteOutcome) : w.toOutcome ≠ .exhausted := by
  cases w <;> simp [toOutcome]

namespace Console

variable {κ : Type}

/-- Writing is one delivery to the outlet, with an event if it succeeded.  It does not matter whether
    the lock was poisoned before.  Writing calls no operation, so that neither the contracts nor the
    depth matter, and it leaves the tables. -/
theorem perform_write (contracts : κ → Contract U) (depth : Nat) (message : String)
    (x : Instance U κ Outlet) :
    let d := x.data.writer.writeLine message
    Instance.perform contracts depth (write message) x =
      ⟨d.outcome.toOutcome, ⟨x.data.receive d, x.tables⟩,
        if d.outcome = .done then [.wroteLine (byteLength message + 1)] else []⟩ := by
  simp only [Instance.perform, Instance.onData, Effect.zoom, write, Routine.exec]
  rw [Lock.recover_take]
  rcases x.data.writer.writeLine message with ⟨_ | e | m, delivered, w⟩ <;> rfl

/-- **A console writes its message as a line, or a part of it.**  Whatever a scripted writer
    answers, writing ends.  What arrives in the buffer is a front part of the line, however the
    answers split it, and depends on the answers to writes alone; it is the whole line iff after
    each of the answers used writing goes on.  These then allowed for the whole line, unless the
    script is used up; otherwise it is as much of the message as they allowed.  Only a whole line is
    flushed, and that uses the next answer to flushes.  Writing succeeds iff neither a write nor the
    flush ended it.  A poisoned lock is no obstacle: afterwards the lock is poisoned iff it was before
    or writing panicked, and nothing else depends on it. -/
theorem write_delivers_line (contracts : κ → Contract U) (depth : Nat) (tables : κ → Table U κ Outlet)
    (poisoned : Bool) (buffers : List SharedBuffer) (b : Nat) (writes : List WriteReply)
    (message : String) :
    let line := utf8 message ++ [0x0a]
    ∃ used left delivered, writes = used ++ left ∧ delivered <+: line ∧
      (delivered = line ↔ ∀ r ∈ used, r.GoesOn) ∧
      (delivered = line → left = [] ∨ line.length ≤ WriteReply.capacity used) ∧
      (delivered ≠ line → delivered = (utf8 message).take (WriteReply.capacity used)) ∧
      ∀ flushes, ∃ usedFlushes leftFlushes, flushes = usedFlushes ++ leftFlushes ∧
        usedFlushes = (if delivered = line then flushes.take 1 else []) ∧
        let run := Instance.perform contracts depth (write message)
          ⟨⟨⟨.scripted b writes flushes, poisoned⟩, buffers⟩, tables⟩
        run.outcome ≠ .exhausted ∧
        run.state = ⟨⟨⟨.scripted b left leftFlushes, poisoned || run.outcome.isPanic⟩,
          appendTo buffers b delivered⟩, tables⟩ ∧
        (run.outcome = .returned (.ok ()) ↔
          (∀ r ∈ used, r.GoesOn) ∧ ∀ f ∈ usedFlushes, f = .done) := by
  intro line
  rcases Writer.writeLine_cases b writes message with
    ⟨used, left, hu, rfl, hc, hd⟩ | ⟨used, r, left, hu, hr, rfl, hd⟩
  · have hline : line.length = (utf8 message).length + 1 := List.length_append
    refine ⟨used, left, line, rfl, List.prefix_rfl, iff_of_true rfl hu, fun _ => hline ▸ hc,
      fun hn => absurd rfl hn, fun flushes =>
        ⟨flushes.take 1, flushes.tail, ?_, (if_pos rfl).symm, ?_⟩⟩
    · rw [← List.drop_one, List.take_append_drop]
    · simp only [perform_write, hd]
      refine ⟨WriteOutcome.toOutcome_ne_exhausted _, by rw [WriteOutcome.isPanic_toOutcome]; rfl, ?_⟩
      rw [WriteOutcome.toOutcome_eq_ok_iff, FlushReply.ending_head?_iff]
      exact (and_iff_right hu).symm
  · -- the answer at which writing stopped is the last one used, and it allowed nothing
    have hn : ¬ ∀ r' ∈ used ++ [r], r'.GoesOn := fun h => hr (h r (by simp))
    have hcap : WriteReply.capacity (used ++ [r]) = WriteReply.capacity used := by
      rw [WriteReply.capacity_append, WriteReply.capacity_of_not_goesOn hr, Nat.add_zero]
    have hne : (utf8 message).take (WriteReply.capacity used) ≠ line :=
      Writer.take_utf8_ne_line message _
    refine ⟨used ++ [r], left, _, by simp, (List.take_prefix _ _).trans (List.prefix_append _ _),
      iff_of_false hne hn, fun he => absurd he hne, fun _ => by rw [hcap], fun flushes =>
        ⟨[], flushes, rfl, (if_neg hne).symm, ?_⟩⟩
    simp only [perform_write, hd]
    refine ⟨WriteOutcome.toOutcome_ne_exhausted _, by rw [WriteOutcome.isPanic_toOutcome]; rfl, ?_⟩
    rw [WriteOutcome.toOutcome_eq_ok_iff]
    exact iff_of_false r.ending_ne_done fun h => hn h.1

/-- A script of short writes and interruptions, behind a poisoned lock: the line arrives whole, and
    writing succeeds. -/
theorem write_delivers_line_short :
    let writes : List WriteReply := [.accept 1, .fail (.system .interruptedCall), .accept 1,
      .fail (.custom .interrupted "again"), .accept 7, .fail (.simple .interrupted)]
    let run := Instance.perform (U := .empty) Standard.contract 0 (write "hé")
      ⟨⟨⟨.scripted 0 writes [.done, .panic], true⟩, [.new [0x3e]]⟩, fun k => .empty k.contract⟩
    run.outcome = .returned (.ok ()) ∧
      run.state.data.buffers = [.new [0x3e, 0x68, 0xc3, 0xa9, 0x0a]] := by
  intro writes run
  obtain ⟨used, left, delivered, hw, -, hwhole, -, -, h⟩ := write_delivers_line Standard.contract 0
    (fun k => .empty k.contract) true [.new [0x3e]] 0 writes "hé"
  have hall : ∀ r ∈ writes, r.GoesOn := by decide
  have hu : ∀ r ∈ used, r.GoesOn := fun r hr => hall r (hw ▸ List.mem_append_left left hr)
  obtain ⟨usedFlushes, leftFlushes, -, hf, -, hs, ho⟩ := h [.done, .panic]
  rw [if_pos (hwhole.2 hu)] at hf
  refine ⟨ho.2 ⟨hu, by simp [hf]⟩, ?_⟩
  rw [hs, hwhole.2 hu]
  rfl

end Console

end Switchboard
