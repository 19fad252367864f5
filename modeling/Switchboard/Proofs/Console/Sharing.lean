/-
  Consoles that share buffers.

  Several consoles write lines in turn, and any of them may deliver into the same buffer.  The
  course of such a run can be told without running it: the earlier lines of a console decide where
  its writer stands, this and the message decide what becomes of a line (`Desk.deliveries`), and
  each buffer receives what its consoles deliver, in order (`Desk.received`).  A line that panics
  poisons the lock of its console (`Desk.panicsAt`), and the lines after it take the poisoned lock.

  * `step_write`: what one line does at a desk;
  * `Desk.WritesAs`: a line goes as it does anywhere, whatever the lock and the buffers;
  * `run_write`: what a sequence of lines does;
  * `lines_accumulate`: what each buffer holds, how each line ended, and what that depends on.
-/
import Switchboard.Proofs.Console.Lines
import Switchboard.Proofs.Console.Wiring
import Switchboard.Proofs.Script
import Switchboard.Proofs.Table.Calls

namespace Switchboard

variable {U : Universe}

/-- A delivery reaches the writer's buffer and no other. -/
theorem Outlet.getElem?_receive (p : Outlet) (d : Delivery) (b : Nat) :
    (p.receive d).buffers[b]? =
      p.buffers[b]?.map (·.append (if p.writer.buffer? = some b then d.delivered else [])) := by
  unfold receive
  rcases p.writer.buffer? with _ | b'
  · simp
  · simp only [appendTo, List.getElem?_modify, Option.some.injEq]
    by_cases h : b' = b <;> simp [h]

/-! ## Lines at a desk -/

namespace Bench

/-- The answer to a step, apart from the number of bytes in the buffers. -/
def DeskAnswer.answer? : DeskAnswer U → Option (Answer (DeskReply U))
  | consumed => none
  | answered a _ => some a

/-- How a console answers when its writer made `d` of a message. -/
def lineAnswer (message : String) (d : Delivery) : Answer (DeskReply U) :=
  ⟨d.outcome.toOutcome.map .written,
    if d.outcome = .done then [.wroteLine (byteLength message + 1)] else [], none⟩

/-- A console after its writer made `d` of a message: a panic has poisoned the lock, and a lock that
    was poisoned before still is. -/
def Seat.after (s : Seat U) (d : Delivery) : Seat U :=
  ⟨s.out.release d.writer d.outcome.isPanic, s.tables⟩

namespace Desk

variable {n : Nat}

/-- Buffers, and a console at every seat. -/
def seated (buffers : List SharedBuffer) (consoles : Vector (Seat U) n) : Desk U n :=
  ⟨buffers, consoles.map some⟩

/-- The messages of the lines written at seat `i`, in order. -/
def linesAt (i : Fin n) (lines : List (Fin n × String)) : List String :=
  (lines.filter (·.1 == i)).map (·.2)

/-- What becomes of each line: the writer at its seat, as the earlier lines at that seat left it,
    makes it of the message. -/
def deliveries (writers : Fin n → Writer) (lines : List (Fin n × String)) : List Delivery :=
  lines.mapIdx fun t p => ((writers p.1).afterLines (linesAt p.1 (lines.take t))).writeLine p.2

/-- The bytes that reach buffer `b`, in the order of the lines. -/
def received (writers : Fin n → Writer) (b : Nat) (lines : List (Fin n × String)) : Bytes :=
  ((lines.zip (deliveries writers lines)).filter
    fun p => (writers p.1.1).buffer? == some b).flatMap (·.2.delivered)

/-- Whether some line at seat `i` panics. -/
def panicsAt (writers : Fin n → Writer) (i : Fin n) (lines : List (Fin n × String)) : Bool :=
  (lines.zip (deliveries writers lines)).any fun p => p.1.1 == i && p.2.outcome.isPanic

/-- The writers after one line at seat `i`. -/
def afterLine (writers : Fin n → Writer) (i : Fin n) (message : String) : Fin n → Writer :=
  fun j => if j = i then ((writers i).writeLine message).writer else writers j

theorem linesAt_cons (i j : Fin n) (message : String) (lines : List (Fin n × String)) :
    linesAt j ((i, message) :: lines) =
      if j = i then message :: linesAt j lines else linesAt j lines := by
  by_cases h : j = i
  · simp [linesAt, h]
  · simp [linesAt, h, Ne.symm h]

/-- One line more in front of others at the same seat is one line before them. -/
theorem afterLines_cons (writers : Fin n → Writer) (i j : Fin n) (message : String)
    (lines : List (Fin n × String)) :
    (writers j).afterLines (linesAt j ((i, message) :: lines)) =
      (afterLine writers i message j).afterLines (linesAt j lines) := by
  rw [linesAt_cons, afterLine]
  split
  · rename_i h
    subst h
    rfl
  · rfl

theorem deliveries_cons (writers : Fin n → Writer) (i : Fin n) (message : String)
    (lines : List (Fin n × String)) :
    deliveries writers ((i, message) :: lines) =
      (writers i).writeLine message :: deliveries (afterLine writers i message) lines := by
  simp only [deliveries, List.mapIdx_cons, List.take_succ_cons, afterLines_cons]
  rfl

theorem afterLine_buffer? (writers : Fin n → Writer) (i j : Fin n) (message : String) :
    (afterLine writers i message j).buffer? = (writers j).buffer? := by
  unfold afterLine
  split
  · rename_i h
    subst h
    exact ((writers j).writeLine_wrote message).buffer
  · rfl

theorem received_cons (writers : Fin n → Writer) (b : Nat) (i : Fin n) (message : String)
    (lines : List (Fin n × String)) :
    received writers b ((i, message) :: lines) =
      (if (writers i).buffer? = some b then ((writers i).writeLine message).delivered else []) ++
        received (afterLine writers i message) b lines := by
  simp only [received, deliveries_cons, List.zip_cons_cons, List.filter_cons, afterLine_buffer?]
  by_cases h : (writers i).buffer? = some b <;> simp [h]

theorem panicsAt_cons (writers : Fin n → Writer) (i j : Fin n) (message : String)
    (lines : List (Fin n × String)) :
    panicsAt writers j ((i, message) :: lines) =
      (i == j && ((writers i).writeLine message).outcome.isPanic ||
        panicsAt (afterLine writers i message) j lines) := by
  simp only [panicsAt, deliveries_cons, List.zip_cons_cons, List.any_cons]

/-! ## One line -/

/-- **What one line does at a desk**, whether the lock of the console is poisoned or not. -/
theorem step_write {d : Desk U n} {i : Fin n} {s : Seat U} (hs : d.seats.get i = some s)
    (depth : Nat) (message : String) :
    let line := s.out.value.writeLine message
    let buffers := ((⟨s.out, d.buffers⟩ : Outlet).receive line).buffers
    d.step depth i (.write message) =
      (.answered (lineAnswer message line) (buffers.map (·.bytes.length)),
        ⟨buffers, d.seats.set i (some (s.after line)) i.isLt⟩) := by
  intro line buffers
  have hrun : (DeskAction.write message).apply depth (d.console s) =
      ⟨line.outcome.toOutcome.map .written,
        ⟨(⟨s.out, d.buffers⟩ : Outlet).receive line, s.tables⟩,
        if line.outcome = .done then [.wroteLine (byteLength message + 1)] else []⟩ := by
    simp only [DeskAction.apply, Effect.bind_pure_run, Console.perform_write]
    rfl
  rw [step_seated hs, hrun]
  rfl

/-- Writing a message at seat `i`, where `s` is, goes as the delivery `line` tells: it is answered so,
    the bytes taken reach the console's buffer and no other, and the console keeps its tables and has
    the same answers left. -/
structure WritesAs (d : Desk U n) (i : Fin n) (s : Seat U) (message : String) (line : Delivery) :
    Prop where
  answer : ∀ depth, (d.step depth i (.write message)).1.answer? = some (lineAnswer message line)
  bytes : ∀ depth (b : Nat), (d.step depth i (.write message)).2.buffers[b]?.map (·.bytes) =
    d.buffers[b]?.map
      (·.bytes ++ if s.out.value.buffer? = some b then line.delivered else [])
  seat : ∀ depth, ∃ w, w.script = line.writer.script ∧
    (d.step depth i (.write message)).2.seats.get i =
      some ⟨⟨w, s.out.poisoned || line.outcome.isPanic⟩, s.tables⟩

/-- **A line goes as it does anywhere.**  The answers that the writer still has to give decide with
    the message; the lock may be poisoned, the buffers may hold anything, and what else there is at
    the desk plays no part. -/
theorem step_writesAs {d : Desk U n} {i : Fin n} {s : Seat U} (hs : d.seats.get i = some s)
    {w : Writer} (hw : s.out.value.script = w.script) (message : String) :
    d.WritesAs i s message (w.writeLine message) := by
  have hlike := Writer.writeLine_like hw message
  refine ⟨fun depth => ?_, fun depth b => ?_, fun depth => ⟨_, hlike.script, ?_⟩⟩
  · rw [step_write hs]
    simp only [DeskAnswer.answer?, lineAnswer, hlike.outcome]
  · rw [step_write hs, Outlet.getElem?_receive, Option.map_map, hlike.delivered]
    simp only [Function.comp_def, SharedBuffer.bytes_append]
  · rw [step_write hs, get_set_seats, if_pos rfl, ← hlike.outcome]
    rfl

/-! ## Many lines -/

theorem seated_get (buffers : List SharedBuffer) (consoles : Vector (Seat U) n) (i : Fin n) :
    (seated buffers consoles).seats.get i = some (consoles.get i) := by
  show (consoles.map some)[i] = some consoles[i]
  simp

theorem step_write_seated (depth : Nat) (buffers : List SharedBuffer) (consoles : Vector (Seat U) n)
    (i : Fin n) (message : String) :
    let s := consoles.get i
    let line := s.out.value.writeLine message
    let buffers' := ((⟨s.out, buffers⟩ : Outlet).receive line).buffers
    (seated buffers consoles).step depth i (.write message) =
      (.answered (lineAnswer message line) (buffers'.map (·.bytes.length)),
        seated buffers' (consoles.set i (s.after line) i.isLt)) := by
  intro s line buffers'
  rw [step_write (seated_get buffers consoles i)]
  simp only [seated, Vector.map_set]
  rfl

/-- The consoles after one line: the one that wrote it has its new writer, its lock is poisoned if it
    was or the line panicked, and every console has its tables. -/
theorem get_set_console (consoles : Vector (Seat U) n) (i j : Fin n) (message : String) :
    let line := (consoles.get i).out.value.writeLine message
    (consoles.set i ((consoles.get i).after line) i.isLt).get j =
      ⟨⟨afterLine (fun k => (consoles.get k).out.value) i message j,
        (consoles.get j).out.poisoned || (i == j && line.outcome.isPanic)⟩,
        (consoles.get j).tables⟩ := by
  intro line
  by_cases h : j = i
  · subst h
    simp only [afterLine, if_pos, beq_self_eq_true, Bool.true_and]
    exact Vector.getElem_set_self j.isLt
  · have hne : (i : Nat) ≠ j := fun he => h (Fin.ext he.symm)
    simp only [afterLine, if_neg h, beq_false_of_ne (Ne.symm h), Bool.false_and, Bool.or_false]
    exact Vector.getElem_set_ne i.isLt j.isLt hne

/-- **What a sequence of lines does at a desk**: each buffer grows by what it receives, each console
    has its writer as its own lines left it, behind a lock that is poisoned if it was or one of these
    lines panicked, and its tables as before, and each line is answered by what became of it. -/
theorem run_write (depth : Nat) (buffers : List SharedBuffer) (consoles : Vector (Seat U) n)
    (lines : List (Fin n × String)) :
    let writers := fun i : Fin n => (consoles.get i).out.value
    let run := (seated buffers consoles).run depth (lines.map fun p => (p.1, .write p.2))
    (∀ b : Nat, run.2.buffers[b]? = buffers[b]?.map (·.append (received writers b lines))) ∧
    (∀ i : Fin n, run.2.seats.get i =
      some ⟨⟨(writers i).afterLines (linesAt i lines),
        (consoles.get i).out.poisoned || panicsAt writers i lines⟩, (consoles.get i).tables⟩) ∧
    run.1.map (·.answer?) =
      (lines.zip (deliveries writers lines)).map fun p => some (lineAnswer p.1.2 p.2) := by
  induction lines generalizing buffers consoles with
  | nil =>
    refine ⟨fun b => ?_, fun i => ?_, rfl⟩
    · simp [received, deliveries, run, seated]
    · simp only [panicsAt, List.zip_nil_left, List.any_nil, Bool.or_false]
      exact seated_get buffers consoles i
  | cons p lines ih =>
    obtain ⟨i, message⟩ := p
    intro writers run
    let line := (writers i).writeLine message
    let buffers' := ((⟨(consoles.get i).out, buffers⟩ : Outlet).receive line).buffers
    let consoles' := consoles.set i ((consoles.get i).after line) i.isLt
    let rest := (seated buffers' consoles').run depth (lines.map fun p => (p.1, .write p.2))
    obtain ⟨hbuffers, hseats, hanswers⟩ := ih buffers' consoles'
    have hwriters : (fun j : Fin n => (consoles'.get j).out.value) = afterLine writers i message := by
      funext j
      rw [get_set_console]
    have hrun : run =
        (.answered (lineAnswer message line) (buffers'.map (·.bytes.length)) :: rest.1, rest.2) := by
      simp only [run, List.map_cons, Desk.run, step_write_seated]
      rfl
    rw [hwriters] at hbuffers hseats hanswers
    refine ⟨fun b => ?_, fun j => ?_, ?_⟩
    · rw [hrun, hbuffers, Outlet.getElem?_receive, received_cons, Option.map_map]
      simp only [Function.comp_def, SharedBuffer.append_append]
      rfl
    · rw [hrun, hseats, get_set_console, afterLines_cons, panicsAt_cons, Bool.or_assoc]
    · rw [hrun, List.map_cons, hanswers, deliveries_cons]
      rfl

/-- **Lines accumulate, and what becomes of one is its console's own matter.**  Consoles with any
    writers, of which any may share buffers, are given lines in any order; any lock may be poisoned
    from the start.  At the end each buffer holds what it held before, followed by what the lines at
    its consoles delivered, in order.  What becomes of a line is told by its message and by the
    answers that the writer of its console still has to give after the earlier lines there, whether
    these succeeded, failed or panicked: it goes so anywhere, at any desk and any console with the
    same answers left, whether the lock there is poisoned or not.  What arrives is a front part of the
    line, and the whole line if writing succeeded; and the answers that it did not use are left to the
    next line.  A line that panics leaves the lock of its console poisoned, and no line changes a
    table. -/
theorem lines_accumulate (depth : Nat) (buffers : List SharedBuffer)
    (consoles : Vector (Seat U) n) (lines : List (Fin n × String)) :
    let writers := fun i : Fin n => (consoles.get i).out.value
    let run := (seated buffers consoles).run depth (lines.map fun p => (p.1, .write p.2))
    (∀ b : Nat, run.2.buffers[b]?.map (·.bytes) =
      buffers[b]?.map (·.bytes ++ received writers b lines)) ∧
    (∀ t i message, lines[t]? = some (i, message) →
      let w := (writers i).afterLines (linesAt i (lines.take t))
      let line := w.writeLine message
      (deliveries writers lines)[t]? = some line ∧
      run.1[t]?.map (·.answer?) = some (some (lineAnswer message line)) ∧
      w.Wrote message line ∧
      ∀ {m : Nat} (d : Desk U m) (j : Fin m) (s : Seat U), d.seats.get j = some s →
        s.out.value.script = w.script → d.WritesAs j s message line) ∧
    ∀ i : Fin n, run.2.seats.get i =
      some ⟨⟨(writers i).afterLines (linesAt i lines),
        (consoles.get i).out.poisoned || panicsAt writers i lines⟩, (consoles.get i).tables⟩ := by
  intro writers run
  obtain ⟨hbuffers, hseats, hanswers⟩ := run_write depth buffers consoles lines
  refine ⟨fun b => ?_, fun t i message ht => ?_, hseats⟩
  · rw [hbuffers, Option.map_map]
    simp only [Function.comp_def, SharedBuffer.bytes_append]
    rfl
  · intro w line
    have hline : (deliveries writers lines)[t]? = some line := by
      rw [deliveries, List.getElem?_mapIdx, ht]
      rfl
    refine ⟨hline, ?_, w.writeLine_wrote message, fun d j s hs hw => step_writesAs hs hw message⟩
    have hzip : (lines.zip (deliveries writers lines))[t]? = some ((i, message), line) :=
      List.getElem?_zip_eq_some.2 ⟨ht, hline⟩
    rw [← List.getElem?_map, hanswers, List.getElem?_map, hzip]
    rfl

/-- Two consoles share a buffer, and the locks of the buffer and of the second console are poisoned
    from the start.  The first console panics in the middle of a line, which poisons its lock; after
    that it fails without taking a byte, and then writes a line whole and fails to flush it.  The lines
    of the second one are not touched. -/
theorem lines_accumulate_panic :
    let tables (k : Standard) : Table types Standard Outlet := .empty k.contract
    let flushes : List FlushReply := [.fail (.simple .interrupted)]
    let script := Writer.scripted 0 [.accept 1, .panic, .accept 0] flushes
    let consoles : Vector (Seat types) 2 := #v[⟨.new script, tables⟩, ⟨⟨.shared 0, true⟩, tables⟩]
    let lines : List (Fin 2 × String) := [(0, "ab"), (1, "é"), (0, "c"), (0, "d"), (1, "")]
    let run k := (seated [⟨[0x3e], true⟩, .new []] consoles).run 0
      ((lines.take k).map fun p => (p.1, .write p.2))
    (run 5).2.buffers[0]?.map (·.bytes) = some [0x3e, 0x61, 0xc3, 0xa9, 0x0a, 0x64, 0x0a, 0x0a] ∧
      (run 5).1[0]?.map (·.answer?) = some (some ⟨.panicked "writer panicked", [], none⟩) ∧
      (run 1).2.seats.get 0 = some ⟨⟨.scripted 0 [.accept 0] flushes, true⟩, tables⟩ ∧
      (run 5).1[3]?.map (·.answer?) =
        some (some ⟨.returned (.written (.error (.simple .interrupted))), [], none⟩) ∧
      (run 5).2.seats.get 0 = some ⟨⟨.scripted 0 [] [], true⟩, tables⟩ := by
  intro tables flushes script consoles lines run
  obtain ⟨hbuffers, hlines, hseats⟩ := lines_accumulate 0 [⟨[0x3e], true⟩, .new []] consoles lines
  obtain ⟨-, -, hfirst⟩ :=
    lines_accumulate 0 [⟨[0x3e], true⟩, .new []] consoles (lines.take 1)
  refine ⟨(hbuffers 0).trans ?_, (hlines 0 0 "ab" rfl).2.1, hfirst 0, (hlines 3 0 "d" rfl).2.1,
    hseats 0⟩
  decide

end Desk

end Bench

end Switchboard
