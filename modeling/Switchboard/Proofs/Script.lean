/-
  What any writer makes of a line.

  A writer that takes everything is one whose script is used up, so that all writers are described
  by the answers they still have to give (`Writer.script`).  Nothing else about a writer matters to
  what becomes of a line: neither where its bytes go, nor how earlier lines ended.

  * `writeLine_like`: writers with the same answers left treat a line alike;
  * `writeLine_wrote`: what arrives, and what is left of the answers;
  * `Writer.afterLines`: a writer after some lines.
-/
import Switchboard.Proofs.Delivery

namespace Switchboard

/-! ## What a writer will answer -/

/-- How a writer will answer: from two lists, and by taking everything once these are used up, or
    always by the same refusal. -/
inductive Script where
  | replies (writes : List WriteReply) (flushes : List FlushReply)
  | refusal (r : Refusal)

namespace Script

/-- The second script is what a line leaves of the first, given whether the line arrived whole.
    Answers in front were used, of which only the last can have ended the writing, and it did so iff
    the line is not whole.  A whole line uses the next answer to flushes, any other line none. -/
def Leaves (whole : Prop) : Script → Script → Prop
  | replies writes flushes, replies writes' flushes' =>
    (∃ used, writes = used ++ writes' ∧ (∀ r ∈ used.dropLast, r.GoesOn) ∧
      (whole ↔ ∀ r ∈ used, r.GoesOn)) ∧
    (whole → flushes' = flushes.tail) ∧ (¬ whole → flushes' = flushes)
  | refusal r, refusal r' => r' = r
  | _, _ => False

/-- A writer that answers so. -/
def writer : Script → Writer
  | replies writes flushes => .scripted 0 writes flushes
  | refusal r => .refusing r

end Script

/-- The answers that a writer still has to give. -/
def Writer.script : Writer → Script
  | shared _ | memory _ => .replies [] []
  | refusing r => .refusal r
  | scripted _ writes flushes => .replies writes flushes

/-- Two deliveries that ended in the same way, with the same bytes taken and the same answers
    left. -/
structure Delivery.Like (d d' : Delivery) : Prop where
  outcome : d.outcome = d'.outcome
  delivered : d.delivered = d'.delivered
  script : d.writer.script = d'.writer.script

/-! ## Lines -/

/-- A script that is used up takes everything. -/
theorem transfer_nil (data : Bytes) : transfer [] data = ⟨.done, data, []⟩ := by
  cases data <;> rfl

namespace Writer

/-- A writer that takes everything takes the whole line. -/
theorem writeLine_shared (b : Nat) (message : String) :
    (shared b).writeLine message = ⟨.done, utf8 message ++ [0x0a], shared b⟩ := by
  simp only [writeLine, writeAll, Delivery.andThen_done, utf8_newline, flush, List.append_nil]

theorem writeLine_memory (bytes : Bytes) (message : String) :
    (memory bytes).writeLine message =
      ⟨.done, utf8 message ++ [0x0a], memory (bytes ++ utf8 message ++ [0x0a])⟩ := by
  simp only [writeLine, writeAll, Delivery.andThen_done, utf8_newline, flush, List.append_nil]

/-- A writer that takes nothing refuses every line, at the newline if not before. -/
theorem writeLine_refusing (r : Refusal) (message : String) :
    (refusing r).writeLine message = ⟨.failed r.error, [], refusing r⟩ := by
  simp only [writeLine, writeAll, utf8_newline]
  cases utf8 message <;> rfl

/-- A script that is used up takes the whole line. -/
theorem writeLine_replies_nil (b : Nat) (message : String) :
    (scripted b [] []).writeLine message = ⟨.done, utf8 message ++ [0x0a], scripted b [] []⟩ := by
  simp only [writeLine, writeAll, transfer_nil, Delivery.andThen_done, utf8_newline, flush,
    List.append_nil]

/-- The buffer behind a scripted writer plays no part in what the writer takes. -/
theorem writeLine_scripted_like (b b' : Nat) (writes : List WriteReply)
    (flushes : List FlushReply) (message : String) :
    ((scripted b writes flushes).writeLine message).Like
      ((scripted b' writes flushes).writeLine message) := by
  simp only [writeLine, writeAll, utf8_newline]
  rcases transfer writes (utf8 message) with ⟨_ | e | m, bytes, left⟩
  · simp only [Delivery.andThen_done]
    rcases transfer left [0x0a] with ⟨_ | e | m, bytes', left'⟩
    · simp only [Delivery.andThen_done, flush_scripted]
      exact ⟨rfl, rfl, rfl⟩
    · exact ⟨rfl, rfl, rfl⟩
    · exact ⟨rfl, rfl, rfl⟩
  · exact ⟨rfl, rfl, rfl⟩
  · exact ⟨rfl, rfl, rfl⟩

/-- A writer treats a line as any writer does that answers so. -/
theorem writeLine_like_script (w : Writer) (message : String) :
    (w.writeLine message).Like (w.script.writer.writeLine message) := by
  cases w with
  | shared b =>
    rw [writeLine_shared, script, Script.writer, writeLine_replies_nil]
    exact ⟨rfl, rfl, rfl⟩
  | memory bytes =>
    rw [writeLine_memory, script, Script.writer, writeLine_replies_nil]
    exact ⟨rfl, rfl, rfl⟩
  | refusing r => exact ⟨rfl, rfl, rfl⟩
  | scripted b writes flushes => exact writeLine_scripted_like b 0 writes flushes message

/-- **Writers with the same answers left treat a line alike**, and have the same answers left
    afterwards. -/
theorem writeLine_like {w w' : Writer} (h : w.script = w'.script) (message : String) :
    (w.writeLine message).Like (w'.writeLine message) := by
  have hw := w.writeLine_like_script message
  have hw' := w'.writeLine_like_script message
  rw [h] at hw
  exact ⟨hw.outcome.trans hw'.outcome.symm, hw.delivered.trans hw'.delivered.symm,
    hw.script.trans hw'.script.symm⟩

/-- What becomes of a line, whatever the writer. -/
structure Wrote (w : Writer) (message : String) (d : Delivery) : Prop where
  /-- What arrives is a front part of the line. -/
  part : d.delivered <+: utf8 message ++ [0x0a]
  /-- If writing succeeded, the whole line arrives. -/
  whole : d.outcome = .done → d.delivered = utf8 message ++ [0x0a]
  /-- However it ended, the answers that were not used are left to the next line. -/
  leaves : w.script.Leaves (d.delivered = utf8 message ++ [0x0a]) d.writer.script
  /-- The writer keeps its buffer. -/
  buffer : d.writer.buffer? = w.buffer?

theorem writeLine_wrote (w : Writer) (message : String) :
    w.Wrote message (w.writeLine message) := by
  cases w with
  | shared b =>
    rw [writeLine_shared]
    exact ⟨List.prefix_rfl, fun _ => rfl, ⟨⟨[], rfl, by simp, by simp⟩, fun _ => rfl, fun _ => rfl⟩,
      rfl⟩
  | memory bytes =>
    rw [writeLine_memory]
    exact ⟨List.prefix_rfl, fun _ => rfl, ⟨⟨[], rfl, by simp, by simp⟩, fun _ => rfl, fun _ => rfl⟩,
      rfl⟩
  | refusing r =>
    rw [writeLine_refusing]
    exact ⟨List.nil_prefix, (fun h => nomatch h), rfl, rfl⟩
  | scripted b writes flushes =>
    rcases writeLine_cases b writes message with
      ⟨used, left, hu, rfl, -, h⟩ | ⟨used, r, left, hu, hr, rfl, h⟩
    · rw [h]
      refine ⟨List.prefix_rfl, fun _ => rfl, ⟨⟨used, rfl, ?_, iff_of_true rfl hu⟩, fun _ => rfl,
        fun hn => absurd rfl hn⟩, rfl⟩
      exact fun r hr => hu r (List.dropLast_subset used hr)
    · rw [h]
      have hne := take_utf8_ne_line message (WriteReply.capacity used)
      refine ⟨(List.take_prefix _ _).trans (List.prefix_append _ _),
        fun hd => absurd hd r.ending_ne_done, ⟨⟨used ++ [r], by simp, ?_, ?_⟩,
          fun hd => absurd hd hne, fun _ => rfl⟩, rfl⟩
      · rw [List.dropLast_concat]
        exact hu
      · exact iff_of_false hne fun hall => hr (hall r (by simp))

/-- A writer after it was given some lines, however each of them ended. -/
def afterLines (w : Writer) (messages : List String) : Writer :=
  messages.foldl (fun w message => (w.writeLine message).writer) w

end Writer

end Switchboard
