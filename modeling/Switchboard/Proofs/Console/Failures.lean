/-
  How the writing of a line fails.

  Writing a line stops at the first answer that ends it, and the error it returns tells which one
  that was: a write that failed, a write that took nothing, or the flush.  An interruption ends only
  a flush.  What was not asked for is left to the next line.

  * `Cause`: what can make a line fail, and `Cause.Explains` what it then looks like;
  * `Explains.eq_ofAnswers`: the answers used tell the cause;
  * `write_reports_first_failure`: when a line fails, with which error, and what is left.
-/
import Mathlib.Logic.ExistsUnique
import Switchboard.Proofs.Console.Lines

namespace Switchboard

variable {U : Universe}

theorem WriteOutcome.toOutcome_eq_error_iff {w : WriteOutcome} {e : StreamError} :
    w.toOutcome = .returned (.error e) ↔ w = .failed e := by
  cases w <;> simp [toOutcome]

/-- An answer that ends the writing with an error is a failed write or one that takes nothing. -/
theorem WriteReply.ending_eq_failed_iff {r : WriteReply} (hr : ¬ r.GoesOn) {e : StreamError} :
    r.ending = .failed e ↔ r = .fail e ∨ r = .accept 0 ∧ e = .wroteNothing := by
  cases r with
  | accept n =>
    obtain rfl : n = 0 := Nat.eq_zero_of_not_pos hr
    simp [ending, eq_comm]
  | fail e' => simp [ending]
  | panic => simp [ending]

theorem FlushReply.ending_head?_eq_failed_iff {flushes : List FlushReply} {e : StreamError} :
    (flushes.head?.getD done).ending = .failed e ↔ flushes.take 1 = [fail e] := by
  rcases flushes with _ | ⟨f, flushes⟩
  · simp [ending]
  · cases f <;> simp [ending]

/-! ## Causes -/

/-- What makes a line fail. -/
inductive Cause where
  | failedWrite
  | nothingTaken
  | failedFlush
  deriving DecidableEq

namespace Cause

/-- The cause explains the error `e` of a line, where `used` are the answers to writes that were
    used and `left` those left over, `flushed` the answers to flushes that were used, and `delivered`
    the bytes that were taken. -/
def Explains (message : String) (used left : List WriteReply) (flushed : List FlushReply)
    (delivered : Bytes) (e : StreamError) : Cause → Prop
  | failedWrite => ∃ before, used = before ++ [.fail e] ∧ (∀ r ∈ before, r.GoesOn) ∧
      e.kind ≠ .interrupted ∧ flushed = [] ∧
      delivered = (utf8 message).take (WriteReply.capacity before)
  | nothingTaken => ∃ before, used = before ++ [.accept 0] ∧ (∀ r ∈ before, r.GoesOn) ∧
      e = .fixed .writeZero "failed to write whole buffer" ∧ flushed = [] ∧
      delivered = (utf8 message).take (WriteReply.capacity before)
  | failedFlush => ∃ forMessage forNewline, used = forMessage ++ forNewline ∧
      WriteReply.Spends (utf8 message).length forMessage (forNewline ++ left) ∧
      WriteReply.Spends 1 forNewline left ∧ flushed = [.fail e] ∧
      delivered = utf8 message ++ [0x0a]

variable {message : String} {used left : List WriteReply} {flushed : List FlushReply}
  {delivered : Bytes} {e : StreamError}

/-- The cause, read off the answers that were used. -/
def ofAnswers (used : List WriteReply) (flushed : List FlushReply) : Cause :=
  match flushed, used.getLast? with
  | _ :: _, _ => failedFlush
  | [], some (.accept _) => nothingTaken
  | [], _ => failedWrite

theorem Explains.eq_ofAnswers {cause : Cause}
    (h : cause.Explains message used left flushed delivered e) :
    cause = ofAnswers used flushed := by
  cases cause with
  | failedWrite =>
    obtain ⟨before, rfl, -, -, rfl, -⟩ := h
    simp [ofAnswers]
  | nothingTaken =>
    obtain ⟨before, rfl, -, -, rfl, -⟩ := h
    simp [ofAnswers]
  | failedFlush =>
    obtain ⟨forMessage, forNewline, -, -, -, rfl, -⟩ := h
    rfl

/-- An error has at most one cause. -/
theorem existsUnique_explains_iff :
    (∃! cause : Cause, cause.Explains message used left flushed delivered e) ↔
      ∃ cause : Cause, cause.Explains message used left flushed delivered e := by
  refine ⟨ExistsUnique.exists, ?_⟩
  rintro ⟨cause, h⟩
  exact ⟨cause, h, fun cause' h' => h'.eq_ofAnswers.trans h.eq_ofAnswers.symm⟩

/-- If all answers let writing go on, only the flush can be the cause. -/
theorem explains_of_goesOn (hu : ∀ r ∈ used, r.GoesOn) {cause : Cause}
    (h : cause.Explains message used left flushed delivered e) : flushed = [.fail e] := by
  cases cause with
  | failedWrite =>
    obtain ⟨before, rfl, -, hk, -⟩ := h
    exact absurd (hu (.fail e) (by simp)) hk
  | nothingTaken =>
    obtain ⟨before, rfl, -⟩ := h
    exact absurd (hu (.accept 0) (by simp)) (Nat.not_succ_le_zero 0)
  | failedFlush =>
    obtain ⟨forMessage, forNewline, -, -, -, hflushed, -⟩ := h
    exact hflushed

/-- Without a flush, the last answer used is the cause. -/
theorem explains_of_not_flushed {before : List WriteReply} {r : WriteReply} {cause : Cause}
    (h : cause.Explains message (before ++ [r]) left [] delivered e) :
    r = .fail e ∨ r = .accept 0 ∧ e = .wroteNothing := by
  cases cause with
  | failedWrite =>
    obtain ⟨before', hused, -⟩ := h
    exact Or.inl (List.singleton_inj.1 (List.append_inj_right' hused rfl))
  | nothingTaken =>
    obtain ⟨before', hused, -, he, -⟩ := h
    exact Or.inr ⟨List.singleton_inj.1 (List.append_inj_right' hused rfl), he⟩
  | failedFlush =>
    obtain ⟨forMessage, forNewline, -, -, -, hflushed, -⟩ := h
    cases hflushed

end Cause

/-! ## Lines -/

namespace Console

variable {κ : Type}

theorem outcome_write_eq_error_iff {contracts : κ → Contract U} {depth : Nat} {message : String}
    {x : Instance U κ Outlet} {e : StreamError} :
    (Instance.perform contracts depth (write message) x).outcome = .returned (.error e) ↔
      (x.data.writer.writeLine message).outcome = .failed e := by
  rw [perform_write]
  exact WriteOutcome.toOutcome_eq_error_iff

/-- A line that failed is not reported as written. -/
theorem events_write_of_error {contracts : κ → Contract U} {depth : Nat} {message : String}
    {x : Instance U κ Outlet} {e : StreamError}
    (h : (Instance.perform contracts depth (write message) x).outcome = .returned (.error e)) :
    (Instance.perform contracts depth (write message) x).events = [] := by
  rw [outcome_write_eq_error_iff] at h
  rw [perform_write]
  exact if_neg (by rw [h]; nofun)

/-- **The first failure ends a line and is reported unchanged.**  For every script of answers and
    every message, the answers that are used are those in front, and the others are left to the next
    line.  Writing returns an error iff that has a cause, and then there is just one.  Either the last
    answer used is a write that failed, not by an interruption, and its error is returned; or it is
    one that took nothing, which is an error of its own; in both cases all answers before it let
    writing go on, there is no flush, whatever it would answer, and a part of the message without the
    newline arrived.  Or the whole line arrived, having spent what that takes, and the one flush
    failed; its error is returned even if it is an interruption.  No line is reported as written.  It
    does not matter whether the lock was poisoned before. -/
theorem write_reports_first_failure (contracts : κ → Contract U) (depth : Nat)
    (tables : κ → Table U κ Outlet) (poisoned : Bool) (buffers : List SharedBuffer) (b : Nat)
    (writes : List WriteReply) (message : String) :
    ∃ used left delivered, writes = used ++ left ∧ ∀ flushes,
      ∃ flushed leftFlushes, flushes = flushed ++ leftFlushes ∧
        let run := Instance.perform contracts depth (write message)
          ⟨⟨⟨.scripted b writes flushes, poisoned⟩, buffers⟩, tables⟩
        run.state = ⟨⟨⟨.scripted b left leftFlushes, poisoned || run.outcome.isPanic⟩,
          appendTo buffers b delivered⟩, tables⟩ ∧
        ∀ e, (run.outcome = .returned (.error e) ↔
            ∃! cause : Cause, cause.Explains message used left flushed delivered e) ∧
          (run.outcome = .returned (.error e) → run.events = []) := by
  rcases Writer.writeLine_spends b writes message with
    ⟨forMessage, forNewline, left, rfl, hm, hn, h⟩ | ⟨before, r, left, hu, hr, rfl, h⟩
  · refine ⟨forMessage ++ forNewline, left, utf8 message ++ [0x0a], by rw [List.append_assoc],
      fun flushes => ⟨flushes.take 1, flushes.tail, ?_, ?_, fun e => ⟨?_, events_write_of_error⟩⟩⟩
    · rw [← List.drop_one, List.take_append_drop]
    · simp only [perform_write, h, WriteOutcome.isPanic_toOutcome]
      rfl
    · rw [outcome_write_eq_error_iff, h, FlushReply.ending_head?_eq_failed_iff,
        Cause.existsUnique_explains_iff]
      constructor
      · exact fun hf => ⟨.failedFlush, forMessage, forNewline, rfl, hm, hn, hf, rfl⟩
      · rintro ⟨cause, hcause⟩
        exact Cause.explains_of_goesOn (List.forall_mem_append.2 ⟨hm.goesOn, hn.goesOn⟩) hcause
  · refine ⟨before ++ [r], left, (utf8 message).take (WriteReply.capacity before), by simp,
      fun flushes => ⟨[], flushes, rfl, ?_, fun e => ⟨?_, events_write_of_error⟩⟩⟩
    · simp only [perform_write, h, WriteOutcome.isPanic_toOutcome]
      rfl
    · rw [outcome_write_eq_error_iff, h, WriteReply.ending_eq_failed_iff hr,
        Cause.existsUnique_explains_iff]
      constructor
      · rintro (rfl | ⟨rfl, rfl⟩)
        · exact ⟨.failedWrite, before, rfl, hu, hr, rfl, rfl⟩
        · exact ⟨.nothingTaken, before, rfl, hu, rfl, rfl, rfl⟩
      · rintro ⟨cause, hcause⟩
        exact Cause.explains_of_not_flushed hcause

/-- A write fails in the middle of a letter, after an interruption, and there is no flush.  The next
    line uses what is left of the script and arrives whole; its flush fails by an interruption. -/
theorem write_reports_first_failure_twice :
    let tables (k : Standard) : Table .empty Standard Outlet := .empty k.contract
    let console writes flushes bytes : Console .empty :=
      ⟨⟨.new (.scripted 0 writes flushes), [.new bytes]⟩, tables⟩
    let stopped : List WriteReply :=
      [.accept 2, .fail (.simple .interrupted), .fail (.system .brokenPipe)]
    let flushes : List FlushReply := [.fail (.system .interruptedCall), .panic]
    let first := Instance.perform Standard.contract 0 (write "hé")
      (console (stopped ++ [.accept 9, .accept 1, .panic]) flushes [])
    let second := Instance.perform Standard.contract 0 (write "c") first.state
    first.outcome = .returned (.error (.system .brokenPipe)) ∧ first.events = [] ∧
      (∃! cause : Cause, cause.Explains "hé" stopped [.accept 9, .accept 1, .panic] [] [0x68, 0xc3]
        (.system .brokenPipe)) ∧
      first.state = console [.accept 9, .accept 1, .panic] flushes [0x68, 0xc3] ∧
      second.outcome = .returned (.error (.system .interruptedCall)) ∧ second.events = [] ∧
      (∃! cause : Cause, cause.Explains "c" [.accept 9, .accept 1] [.panic]
        [.fail (.system .interruptedCall)] [0x63, 0x0a] (.system .interruptedCall)) ∧
      second.state = console [.panic] [.panic] [0x68, 0xc3, 0x63, 0x0a] := by
  intro tables console stopped flushes first second
  have hfirst : first.state = console [.accept 9, .accept 1, .panic] flushes [0x68, 0xc3] := rfl
  have hsecond : second.state = console [.panic] [.panic] [0x68, 0xc3, 0x63, 0x0a] := rfl
  obtain ⟨used, left, delivered, hused, h⟩ := write_reports_first_failure Standard.contract 0 tables
    false [.new []] 0 (stopped ++ [.accept 9, .accept 1, .panic]) "hé"
  obtain ⟨flushed, leftFlushes, hflushed, hstate, hcause⟩ := h flushes
  obtain ⟨used', left', delivered', hused', h'⟩ := write_reports_first_failure Standard.contract 0
    tables false [.new [0x68, 0xc3]] 0 [.accept 9, .accept 1, .panic] "c"
  obtain ⟨flushed', leftFlushes', hflushed', hstate', hcause'⟩ := h' flushes
  -- what was used is what the script had before and has no longer
  have hwriter : Writer.scripted 0 left leftFlushes =
      .scripted 0 [.accept 9, .accept 1, .panic] flushes :=
    congrArg (·.data.writer) (hstate.symm.trans hfirst)
  have hwriter' : Writer.scripted 0 left' leftFlushes' = .scripted 0 [.panic] [.panic] :=
    congrArg (·.data.writer) (hstate'.symm.trans hsecond)
  have hbytes : [delivered] = [[0x68, 0xc3]] :=
    congrArg (·.data.buffers.map (·.bytes)) (hstate.symm.trans hfirst)
  have hbytes' : [[0x68, 0xc3] ++ delivered'] = [[0x68, 0xc3] ++ [0x63, 0x0a]] :=
    congrArg (·.data.buffers.map (·.bytes)) (hstate'.symm.trans hsecond)
  cases hwriter
  cases hwriter'
  cases hbytes
  have hline := List.singleton_inj.1 hbytes'
  obtain rfl := List.append_cancel_left hline
  obtain rfl := List.append_cancel_right hused
  obtain rfl : [] = flushed := List.append_cancel_right hflushed
  obtain rfl : [.accept 9, .accept 1] = used' := List.append_cancel_right hused'
  obtain rfl : [.fail (.system .interruptedCall)] = flushed' := List.append_cancel_right hflushed'
  exact ⟨rfl, (hcause _).2 rfl, (hcause _).1.1 rfl, hfirst, rfl, (hcause' _).2 rfl,
    (hcause' _).1.1 rfl, hsecond⟩

end Console

end Switchboard
