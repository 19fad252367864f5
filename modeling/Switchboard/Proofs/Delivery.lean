/-
  What a scripted writer delivers.

  Writing uses up the answers of a script one after the other.  After some of them it goes on
  (`WriteReply.GoesOn`), any other answer ends it (`WriteReply.ending`).  So a transfer either
  delivers all of its bytes, and then every answer it used is of the first kind, or it stops at the
  first answer of the second kind, with as many bytes taken as the answers before it allow
  (`WriteReply.capacity`).

  * `transfer_cases`: the two ways in which a transfer ends;
  * `WriteReply.Spends`: some answers are just those that writing a number of bytes uses up;
  * `writeLine_spends`, `writeLine_cases`: the same for a line, which is two transfers and a flush.
-/
import Switchboard.Writer

namespace Switchboard

/-! ## Answers -/

namespace WriteReply

/-- After this answer writing goes on: some byte was taken, or the writer was interrupted. -/
def GoesOn : WriteReply → Prop
  | accept n => 1 ≤ n
  | fail e => e.kind = .interrupted
  | panic => False

instance : DecidablePred GoesOn
  | accept n => inferInstanceAs (Decidable (1 ≤ n))
  | fail e => inferInstanceAs (Decidable (e.kind = .interrupted))
  | panic => isFalse id

/-- How writing ends at an answer after which it does not go on. -/
def ending : WriteReply → WriteOutcome
  | accept _ => .failed .wroteNothing
  | fail e => .failed e
  | panic => .panicked "writer panicked"

theorem ending_ne_done (r : WriteReply) : r.ending ≠ .done := by
  cases r <;> simp [ending]

/-- The number of bytes that some answers allow to be taken. -/
def capacity : List WriteReply → Nat
  | [] => 0
  | accept n :: replies => n + capacity replies
  | _ :: replies => capacity replies

theorem capacity_append (replies replies' : List WriteReply) :
    capacity (replies ++ replies') = capacity replies + capacity replies' := by
  fun_induction capacity replies with
  | case1 => simp
  | case2 n replies ih => rw [List.cons_append, capacity, ih, Nat.add_assoc]
  | case3 r replies hr ih => rw [List.cons_append, capacity, ih]; exact hr

theorem capacity_dropLast_cons_lt {r : WriteReply} {used : List WriteReply} {n : Nat} (hn : 0 < n)
    (h : used = [] ∨ capacity [r] + capacity used.dropLast < n) :
    capacity (r :: used).dropLast < n := by
  rcases used with _ | ⟨r', used⟩
  · exact hn
  · rw [List.dropLast_cons_cons, ← List.singleton_append, capacity_append]
    exact h.resolve_left (List.cons_ne_nil r' used)

/-- Writing `n` bytes uses up the answers `used`, and `left` are left over: writing goes on after
    each of them, all bytes are taken unless the script is used up, and the last was still needed. -/
structure Spends (n : Nat) (used left : List WriteReply) : Prop where
  goesOn : ∀ r ∈ used, r.GoesOn
  enough : left = [] ∨ n ≤ capacity used
  needed : used = [] ∨ capacity used.dropLast < n

/-- An answer at which writing ends allows no byte to be taken. -/
theorem capacity_of_not_goesOn {r : WriteReply} (hr : ¬ r.GoesOn) : capacity [r] = 0 := by
  cases r with
  | accept n => exact Nat.eq_zero_of_not_pos hr
  | fail e => rfl
  | panic => rfl

end WriteReply

namespace FlushReply

/-- How a flush ends with a given answer. -/
def ending : FlushReply → WriteOutcome
  | done => .done
  | fail e => .failed e
  | panic => .panicked "flush panicked"

/-- A flush succeeds iff the answer it uses says so, if there is one. -/
theorem ending_head?_iff (flushes : List FlushReply) :
    (flushes.head?.getD done).ending = .done ↔ ∀ f ∈ flushes.take 1, f = done := by
  rcases flushes with _ | ⟨f, flushes⟩
  · simp [ending]
  · cases f <;> simp [ending]

end FlushReply

/-! ## Transfers -/

/-- **The two ways in which a transfer ends.**  It delivers all of the bytes, having used answers
    after which writing goes on; then these allowed for all of them, unless the script is used up.
    Or it stops at another answer, with just the bytes taken that the answers before it allowed. -/
theorem transfer_cases (replies : List WriteReply) (data : Bytes) :
    (∃ used left, (∀ r ∈ used, r.GoesOn) ∧ replies = used ++ left ∧
      (left = [] ∨ data.length ≤ WriteReply.capacity used) ∧
      transfer replies data = ⟨.done, data, left⟩) ∨
    (∃ used r left, (∀ r ∈ used, r.GoesOn) ∧ ¬ r.GoesOn ∧ replies = used ++ r :: left ∧
      WriteReply.capacity used < data.length ∧
      transfer replies data = ⟨r.ending, data.take (WriteReply.capacity used), left⟩) := by
  fun_induction transfer replies data with
  | case1 replies => exact Or.inl ⟨[], replies, by simp, rfl, Or.inr (Nat.le_refl 0), rfl⟩
  | case2 data hd => exact Or.inl ⟨[], [], by simp, rfl, Or.inl rfl, rfl⟩
  | case3 replies data hd =>
    exact Or.inr ⟨[], .accept 0, replies, by simp, by simp [WriteReply.GoesOn], rfl,
      List.length_pos_iff.2 hd, rfl⟩
  | case4 n replies data hd hn t ih =>
    have hgo : (WriteReply.accept n).GoesOn := Nat.pos_of_ne_zero hn
    rcases ih with ⟨used, left, hu, rfl, hc, ht⟩ | ⟨used, r, left, hu, hr, rfl, hc, ht⟩
    · have ht' : t = ⟨.done, data.drop n, left⟩ := ht
      refine Or.inl ⟨.accept n :: used, left, List.forall_mem_cons.2 ⟨hgo, hu⟩, rfl, ?_, ?_⟩
      · rw [List.length_drop] at hc
        refine hc.imp_right fun hc => ?_
        rw [WriteReply.capacity]; omega
      · rw [ht', List.take_append_drop]
    · have ht' : t = ⟨r.ending, (data.drop n).take (WriteReply.capacity used), left⟩ := ht
      rw [List.length_drop] at hc
      refine Or.inr ⟨.accept n :: used, r, left, List.forall_mem_cons.2 ⟨hgo, hu⟩, hr, rfl, ?_, ?_⟩
      · rw [WriteReply.capacity]; omega
      · -- the bytes taken now and those taken later are cut from the same sequence
        rw [ht', WriteReply.capacity, List.take_add]
  | case5 e replies data hd hk ih =>
    rcases ih with ⟨used, left, hu, rfl, hc, ht⟩ | ⟨used, r, left, hu, hr, rfl, hc, ht⟩
    · exact Or.inl ⟨.fail e :: used, left, List.forall_mem_cons.2 ⟨hk, hu⟩, rfl, hc, ht⟩
    · exact Or.inr ⟨.fail e :: used, r, left, List.forall_mem_cons.2 ⟨hk, hu⟩, hr, rfl, hc, ht⟩
  | case6 e replies data hd hk =>
    exact Or.inr ⟨[], .fail e, replies, by simp, hk, rfl, List.length_pos_iff.2 hd, rfl⟩
  | case7 replies data hd =>
    exact Or.inr ⟨[], .panic, replies, by simp, id, rfl, List.length_pos_iff.2 hd, rfl⟩

/-- No answer is used up once all bytes are taken. -/
theorem transfer_needed (replies : List WriteReply) (data : Bytes) :
    ∃ used, replies = used ++ (transfer replies data).left ∧
      (used = [] ∨ WriteReply.capacity used.dropLast < data.length) := by
  fun_induction transfer replies data with
  | case1 replies => exact ⟨[], rfl, Or.inl rfl⟩
  | case2 data hd => exact ⟨[], rfl, Or.inl rfl⟩
  | case3 replies data hd => exact ⟨[.accept 0], rfl, Or.inr (List.length_pos_iff.2 hd)⟩
  | case4 n replies data hd hn t ih =>
    obtain ⟨used, hused, hneeded⟩ := ih
    refine ⟨.accept n :: used, congrArg (.accept n :: ·) hused, Or.inr ?_⟩
    refine WriteReply.capacity_dropLast_cons_lt (List.length_pos_iff.2 hd) (hneeded.imp_right ?_)
    rw [List.length_drop, WriteReply.capacity, WriteReply.capacity]
    omega
  | case5 e replies data hd hk ih =>
    obtain ⟨used, hused, hneeded⟩ := ih
    refine ⟨.fail e :: used, congrArg (.fail e :: ·) hused, Or.inr ?_⟩
    refine WriteReply.capacity_dropLast_cons_lt (List.length_pos_iff.2 hd) (hneeded.imp_right ?_)
    have hzero : WriteReply.capacity [.fail e] = 0 := rfl
    rw [hzero, Nat.zero_add]
    exact id
  | case6 e replies data hd hk => exact ⟨[.fail e], rfl, Or.inr (List.length_pos_iff.2 hd)⟩
  | case7 replies data hd => exact ⟨[.panic], rfl, Or.inr (List.length_pos_iff.2 hd)⟩

/-- A transfer delivers all of the bytes and spends just what that takes, or it stops. -/
theorem transfer_spends (replies : List WriteReply) (data : Bytes) :
    (∃ used left, replies = used ++ left ∧ WriteReply.Spends data.length used left ∧
      transfer replies data = ⟨.done, data, left⟩) ∨
    (∃ used r left, (∀ r ∈ used, r.GoesOn) ∧ ¬ r.GoesOn ∧ replies = used ++ r :: left ∧
      WriteReply.capacity used < data.length ∧
      transfer replies data = ⟨r.ending, data.take (WriteReply.capacity used), left⟩) := by
  rcases transfer_cases replies data with ⟨used, left, hu, hsplit, hc, ht⟩ | h
  · obtain ⟨used', hsplit', hneeded⟩ := transfer_needed replies data
    rw [ht] at hsplit'
    obtain rfl : used = used' := List.append_cancel_right (hsplit.symm.trans hsplit')
    exact Or.inl ⟨used, left, hsplit, ⟨hu, hc, hneeded⟩, ht⟩
  · exact Or.inr h

-- Interruptions are recognised by their kind, whatever the form of the error.
example : transfer [.fail (.custom .interrupted "again"), .accept 1, .fail (.simple .interrupted),
    .fail (.system .interruptedCall), .accept 0, .panic] [104, 105] =
      ⟨.failed .wroteNothing, [104], [.panic]⟩ := by decide

/-! ## Lines -/

namespace Delivery

theorem andThen_done (bytes : Bytes) (w : Writer) (f : Writer → Delivery) :
    (⟨.done, bytes, w⟩ : Delivery).andThen f =
      ⟨(f w).outcome, bytes ++ (f w).delivered, (f w).writer⟩ := rfl

theorem andThen_ending (r : WriteReply) (bytes : Bytes) (w : Writer) (f : Writer → Delivery) :
    (⟨r.ending, bytes, w⟩ : Delivery).andThen f = ⟨r.ending, bytes, w⟩ := by
  cases r <;> rfl

end Delivery

namespace Writer

/-- A flush uses the next answer of the script; without one it succeeds. -/
theorem flush_scripted (b : Nat) (writes : List WriteReply) (flushes : List FlushReply) :
    (scripted b writes flushes).flush =
      ⟨(flushes.head?.getD .done).ending, [], scripted b writes flushes.tail⟩ := by
  rcases flushes with _ | ⟨reply, flushes⟩
  · rfl
  · cases reply <;> rfl

/-- A part of a message is not the whole line. -/
theorem take_utf8_ne_line (message : String) (n : Nat) :
    (utf8 message).take n ≠ utf8 message ++ [0x0a] := by
  intro h
  have hlen := List.length_take_le' n (utf8 message)
  rw [h, List.length_append, List.length_singleton] at hlen
  omega

/-- **The two ways in which a line ends.**  Either message and newline are delivered whole, each
    having spent the answers that it takes, and the flush decides.  Or writing stops at an answer
    after which it does not go on, and there is no flush; the newline is then missing, and of the
    message there is as much as the answers before allowed.  The answers to flushes play no part in
    what is delivered. -/
theorem writeLine_spends (b : Nat) (writes : List WriteReply) (message : String) :
    (∃ forMessage forNewline left, writes = forMessage ++ (forNewline ++ left) ∧
      WriteReply.Spends (utf8 message).length forMessage (forNewline ++ left) ∧
      WriteReply.Spends 1 forNewline left ∧
      ∀ flushes, (scripted b writes flushes).writeLine message =
        ⟨(flushes.head?.getD .done).ending, utf8 message ++ [0x0a],
          scripted b left flushes.tail⟩) ∨
    (∃ used r left, (∀ r ∈ used, r.GoesOn) ∧ ¬ r.GoesOn ∧ writes = used ++ r :: left ∧
      ∀ flushes, (scripted b writes flushes).writeLine message =
        ⟨r.ending, (utf8 message).take (WriteReply.capacity used), scripted b left flushes⟩) := by
  rcases transfer_spends writes (utf8 message) with
    ⟨used, left, rfl, hspends, ht⟩ | ⟨used, r, left, hu, hr, rfl, -, ht⟩
  · -- the message went through, and the newline is offered to the answers that are left
    rcases transfer_spends left [0x0a] with
      ⟨used', left', rfl, hspends', ht'⟩ | ⟨used', r, left', hu', hr, rfl, hc', ht'⟩
    · refine Or.inl ⟨used, used', left', rfl, hspends, hspends', fun flushes => ?_⟩
      simp only [writeLine, writeAll, ht, utf8_newline, Delivery.andThen_done, ht',
        flush_scripted, List.append_nil]
    · have hzero : WriteReply.capacity used' = 0 := Nat.lt_one_iff.1 hc'
      have hall : (utf8 message).length ≤ WriteReply.capacity used :=
        hspends.enough.resolve_left (by simp)
      refine Or.inr ⟨used ++ used', r, left', List.forall_mem_append.2 ⟨hspends.goesOn, hu'⟩, hr,
        by rw [List.append_assoc], fun flushes => ?_⟩
      rw [WriteReply.capacity_append, hzero, Nat.add_zero, List.take_of_length_le hall]
      simp only [writeLine, writeAll, ht, utf8_newline, Delivery.andThen_done, ht', hzero,
        Delivery.andThen_ending, List.take_zero, List.append_nil]
  · refine Or.inr ⟨used, r, left, hu, hr, rfl, fun flushes => ?_⟩
    simp only [writeLine, writeAll, ht, Delivery.andThen_ending]

/-- The same, without telling the answers spent on the message from those spent on the newline. -/
theorem writeLine_cases (b : Nat) (writes : List WriteReply) (message : String) :
    (∃ used left, (∀ r ∈ used, r.GoesOn) ∧ writes = used ++ left ∧
      (left = [] ∨ (utf8 message).length + 1 ≤ WriteReply.capacity used) ∧
      ∀ flushes, (scripted b writes flushes).writeLine message =
        ⟨(flushes.head?.getD .done).ending, utf8 message ++ [0x0a],
          scripted b left flushes.tail⟩) ∨
    (∃ used r left, (∀ r ∈ used, r.GoesOn) ∧ ¬ r.GoesOn ∧ writes = used ++ r :: left ∧
      ∀ flushes, (scripted b writes flushes).writeLine message =
        ⟨r.ending, (utf8 message).take (WriteReply.capacity used), scripted b left flushes⟩) := by
  rcases writeLine_spends b writes message with ⟨used, used', left, hsplit, hm, hn, h⟩ | h
  · refine Or.inl ⟨used ++ used', left, List.forall_mem_append.2 ⟨hm.goesOn, hn.goesOn⟩,
      by rw [hsplit, List.append_assoc], ?_, h⟩
    rw [WriteReply.capacity_append]
    rcases hm.enough with hc | hc
    · exact Or.inl (List.append_eq_nil_iff.1 hc).2
    · exact hn.enough.imp_right fun hc' => Nat.add_le_add hc hc'
  · exact Or.inr h

end Writer

end Switchboard
