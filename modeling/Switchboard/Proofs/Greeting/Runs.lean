/-
  Runs of a console.

  A run wires a console and greets, so that the greeting reads and writes by the console's own
  routines.  Reading gives a fixed text and cannot fail; hence a run ends as the writing of one line
  does, and leaves the console wired for the next run.

  * `Writer.NeverPanics`: the writer answers every offer and every flush;
  * `Outlet.Gains`: what was added to the output of an outlet;
  * `greet_delivers`, `run_delivers`: a greeting and a run are one delivery to the outlet;
  * `runs_gain`: runs in a row that succeed add their lines;
  * `run_writes_greeting`: how a run ends, what it writes and what it leaves.
-/
import Switchboard.Proofs.Console.Native
import Switchboard.Proofs.Console.Sharing
import Switchboard.Proofs.Greeting.Bindings

namespace Switchboard

variable {U : Universe}

/-! ## Writers that do not panic -/

theorem FlushReply.ending_head?_ne_panicked {flushes : List FlushReply} (h : panic ∉ flushes)
    (m : String) : (flushes.head?.getD done).ending ≠ .panicked m := by
  rcases flushes with _ | ⟨f, flushes⟩
  · nofun
  · cases f with
    | done => nofun
    | fail e => nofun
    | panic => exact absurd (.head _) h

namespace Writer

/-- The writer answers, whatever it is asked. -/
def NeverPanics : Writer → Prop
  | scripted _ writes flushes => .panic ∉ writes ∧ .panic ∉ flushes
  | _ => True

/-- Such a writer does not panic on a line, nor will it on the next one. -/
theorem NeverPanics.writeLine {w : Writer} (hw : w.NeverPanics) (message : String) :
    (∀ m, (w.writeLine message).outcome ≠ .panicked m) ∧
      (w.writeLine message).writer.NeverPanics := by
  cases w with
  | shared b =>
    rw [writeLine_shared]
    exact ⟨nofun, trivial⟩
  | memory bytes =>
    rw [writeLine_memory]
    exact ⟨nofun, trivial⟩
  | refusing r =>
    rw [writeLine_refusing]
    exact ⟨nofun, trivial⟩
  | scripted b writes flushes =>
    obtain ⟨hwrites, hflushes⟩ := hw
    rcases writeLine_cases b writes message with
      ⟨used, left, -, rfl, -, h⟩ | ⟨used, r, left, -, -, rfl, h⟩
    · rw [h]
      exact ⟨FlushReply.ending_head?_ne_panicked hflushes,
        fun hp => hwrites (List.mem_append_right used hp),
        fun hp => hflushes (List.mem_of_mem_tail hp)⟩
    · rw [h]
      refine ⟨fun m hm => ?_, fun hp => hwrites (List.mem_append_right used (.tail r hp)), hflushes⟩
      cases r with
      | accept n => cases hm
      | fail e => cases hm
      | panic => exact hwrites (List.mem_append_right used (.head left))

end Writer

/-! ## Output -/

namespace Outlet

/-- From the first state of an outlet to the second, these bytes were added to its output: to the
    buffer of its writer, and to no other, or to the writer's own memory; a writer that takes nothing
    took none. -/
structure Gains (p : Outlet) (bytes : Bytes) (p' : Outlet) : Prop where
  buffers : ∀ b : Nat, p'.buffers[b]? =
    p.buffers[b]?.map (·.append (if p.writer.buffer? = some b then bytes else []))
  buffer : p'.writer.buffer? = p.writer.buffer?
  memory : ∀ own, p.writer = .memory own → p'.writer = .memory (own ++ bytes)
  refusing : ∀ r, p.writer = .refusing r → bytes = [] ∧ p'.writer = .refusing r

theorem Gains.refl (p : Outlet) : p.Gains [] p := by
  refine ⟨fun b => ?_, rfl, fun own h => ?_, fun r h => ⟨rfl, h⟩⟩
  · simp
  · rw [h, List.append_nil]

theorem Gains.trans {p p' p'' : Outlet} {bytes bytes' : Bytes} (h : p.Gains bytes p')
    (h' : p'.Gains bytes' p'') : p.Gains (bytes ++ bytes') p'' := by
  refine ⟨fun b => ?_, h'.buffer.trans h.buffer, fun own hown => ?_, fun r hr => ?_⟩
  · rw [h'.buffers, h.buffers, h.buffer, Option.map_map]
    congr
    funext content
    by_cases hb : p.writer.buffer? = some b <;> simp [hb]
  · rw [h'.memory _ (h.memory own hown), List.append_assoc]
  · obtain ⟨rfl, hr'⟩ := h.refusing r hr
    obtain ⟨rfl, hr''⟩ := h'.refusing r hr'
    exact ⟨rfl, hr''⟩

/-- What an outlet gains by a line is what its writer delivers. -/
theorem gains_receive (p : Outlet) (message : String) :
    let d := p.writer.writeLine message
    p.Gains d.delivered (p.receive d) := by
  intro d
  refine ⟨p.getElem?_receive d, (p.writer.writeLine_wrote message).buffer, fun own h => ?_,
    fun r h => ?_⟩
  · show d.writer = .memory (own ++ d.delivered)
    simp only [d, h, Writer.writeLine_memory, List.append_assoc]
  · have hd : d = ⟨.failed r.error, [], .refusing r⟩ := by
      rw [← Writer.writeLine_refusing r message, ← h]
    exact ⟨congrArg Delivery.delivered hd, congrArg Delivery.writer hd⟩

end Outlet

/-! ## Runs -/

/-- The outcome of a greeting whose line was written so. -/
def WriteOutcome.toGreeting (line : String) : WriteOutcome → Outcome (Except Failure String)
  | done => .returned (.ok line)
  | failed e => .returned (.error (.stream e))
  | panicked m => .panicked m

theorem WriteOutcome.toGreeting_eq_ok_iff {w : WriteOutcome} {line text : String} :
    w.toGreeting line = .returned (.ok text) ↔ w = .done ∧ text = line := by
  cases w <;> simp [toGreeting, eq_comm]

theorem Run.state_andThen {σ α β : Type} {r : Run σ α} {a : α} (h : r.outcome = .returned a)
    (f : α → σ → Run σ β) : (r.andThen f).state = (f a r.state).state := by
  rcases r with ⟨_, s, es⟩
  obtain rfl : _ = Outcome.returned a := h
  rfl

theorem Effect.mapM_cons_run {σ α β : Type} (f : α → Effect σ β) (a : α) (l : List α) (s : σ) :
    (a :: l).mapM f s = (f a s).andThen fun b s' =>
      let r := l.mapM f s'
      ⟨r.outcome.map (b :: ·), r.state, r.events⟩ := by
  rw [List.mapM_cons, bind_run]
  congr 1
  funext b s'
  exact bind_pure_run _ _ _

/-- If effects in a row return, so does the first one, and the others do on the state it left. -/
theorem Effect.mapM_cons_returned {σ α β : Type} {f : α → Effect σ β} {a : α} {l : List α} {s : σ}
    {bs : List β} (h : ((a :: l).mapM f s).outcome = .returned bs) :
    let r := f a s
    ∃ b bs', bs = b :: bs' ∧ r.outcome = .returned b ∧
      (l.mapM f r.state).outcome = .returned bs' ∧
      ((a :: l).mapM f s).state = (l.mapM f r.state).state := by
  intro r
  rw [mapM_cons_run] at h ⊢
  obtain ⟨b, hb, hmap⟩ := Run.outcome_andThen_iff.1 h
  obtain ⟨bs', hbs', rfl⟩ := Outcome.map_eq_returned_iff.1 hmap
  exact ⟨b, bs', rfl, hb, hbs', Run.state_andThen hb _⟩

namespace Console

theorem dispatch_read_own (depth : Nat) (outlet : Outlet) :
    Instance.dispatch (U := U) Standard.contract ownTables (depth + 1) .readable "read" (.tuple [])
      .text () outlet = ⟨.returned (.ok greeting), outlet, [.invoking "Readable" "read"]⟩ :=
  Bench.Use.read.call_own _ outlet

theorem dispatch_write_own (depth : Nat) (message : String) (outlet : Outlet) :
    let d := outlet.writer.writeLine message
    Instance.dispatch (U := U) Standard.contract ownTables (depth + 1) .writable "write"
        (.tuple [.text]) .written (message, ()) outlet =
      (⟨d.outcome.toOutcome, outlet.receive d,
        if d.outcome = .done then [.wroteLine (byteLength message + 1)] else []⟩ :
          Run Outlet _).invoked "Writable" "write" := by
  intro d
  have hwritten := perform_write (U := U) Standard.contract depth message (wired outlet)
  exact ((Bench.Use.write message).call_own _ outlet).trans
    (congrArg (fun r => (⟨r.outcome, r.state.data, r.events⟩ : Run Outlet _).invoked _ _) hwritten)

/-- **A greeting of a wired console is one delivery to the outlet.** -/
theorem greet_delivers (depth : Nat) (g : Greeting) (outlet : Outlet) :
    let line := greeting ++ g.suffix
    let d := outlet.writer.writeLine line
    Instance.perform (U := U) Standard.contract (depth + 1) (greet g) (wired outlet) =
      ⟨d.outcome.toGreeting line, wired (outlet.receive d),
        [.invoking "Readable" "read", .invoking "Writable" "write"] ++
          if d.outcome = .done then [.wroteLine (byteLength line + 1), .greeted (byteLength line)]
          else []⟩ := by
  intro line d
  let r := (greet g).exec (Instance.dispatch (U := U) Standard.contract ownTables (depth + 1)) outlet
  have hr : r = _ := exec_greet_of_read g (dispatch_read_own depth outlet)
  have hwrite := dispatch_write_own (U := U) depth line outlet
  have hr' : r = ⟨d.outcome.toGreeting line, outlet.receive d,
      .invoking "Readable" "read" :: .invoking "Writable" "write" ::
        if d.outcome = .done then [.wroteLine (byteLength line + 1), .greeted (byteLength line)]
        else []⟩ := by
    rw [hr, show HasStandard.key Standard.writable = Standard.writable from rfl, hwrite]
    rcases d.outcome with _ | e | m <;> rfl
  have hgreet : Instance.perform (U := U) Standard.contract (depth + 1) (greet g) (wired outlet) =
      ⟨r.outcome, ⟨r.state, ownTables⟩, r.events⟩ := rfl
  rw [hgreet, hr']
  rfl

section
variable {c : Console U} (hc : c.Fits Standard.contract) (depth : Nat) (g : Greeting)
include hc

/-- **A run is one delivery to the outlet.** -/
theorem run_delivers :
    let line := greeting ++ g.suffix
    let d := c.data.writer.writeLine line
    run depth g c =
      ⟨d.outcome.toGreeting line, wired (c.data.receive d),
        c.wiringEvents ++
          [.wired .all, .invoking "Readable" "read", .invoking "Writable" "write"] ++
          if d.outcome = .done then [.wroteLine (byteLength line + 1), .greeted (byteLength line)]
          else []⟩ := by
  intro line d
  rw [run_eq hc, greet_delivers]
  simp [Run.after, line, d]

theorem run_wired : (run depth g c).state = wired (run depth g c).state.data := by
  rw [run_delivers hc]
  rfl

theorem run_fits : (run depth g c).state.Fits Standard.contract := by
  rw [run_wired hc]
  exact wired_fits _

/-- A run adds a part of its line to the output, and the whole line if it succeeds. -/
theorem run_gains :
    let line := greeting ++ g.suffix
    let r := run depth g c
    ∃ bytes, c.data.Gains bytes r.state.data ∧ bytes <+: utf8 line ++ [0x0a] ∧
      ∀ text, r.outcome = .returned (.ok text) → text = line ∧ bytes = utf8 line ++ [0x0a] := by
  intro line r
  let d := c.data.writer.writeLine line
  have hd : c.data.writer.Wrote line d := c.data.writer.writeLine_wrote line
  have hr : r = _ := run_delivers hc depth g
  rw [hr]
  refine ⟨d.delivered, c.data.gains_receive line, hd.part, fun text htext => ?_⟩
  obtain ⟨hdone, htext⟩ := WriteOutcome.toGreeting_eq_ok_iff.1 htext
  exact ⟨htext, hd.whole hdone⟩

/-- **Runs in a row that succeed add their lines**, one after the other. -/
theorem runs_gain {gs : List Greeting} {lines : List String}
    (h : (gs.mapM (run depth) c).outcome = .returned (lines.map .ok)) :
    lines = gs.map (greeting ++ ·.suffix) ∧
      c.data.Gains (lines.flatMap fun line => utf8 line ++ [0x0a])
        (gs.mapM (run depth) c).state.data := by
  induction gs generalizing c lines with
  | nil =>
    obtain rfl : lines = [] := by simpa [Effect.pure_run] using h.symm
    exact ⟨rfl, .refl c.data⟩
  | cons g gs ih =>
    obtain ⟨result, results, hresults, hg, hgs, hstate⟩ := Effect.mapM_cons_returned h
    obtain ⟨text, texts, rfl, rfl, rfl⟩ := List.map_eq_cons_iff.1 hresults
    obtain ⟨bytes, hgains, -, hwhole⟩ := run_gains hc depth g
    obtain ⟨rfl, rfl⟩ := hwhole text hg
    obtain ⟨rfl, hgains'⟩ := ih (run_fits hc depth g) hgs
    rw [hstate]
    exact ⟨rfl, hgains.trans hgains'⟩

/-- **A run ends as the writing of its line does.** -/
theorem run_cases (hw : c.data.writer.NeverPanics) :
    let line := greeting ++ g.suffix
    let written := Instance.perform Standard.contract depth (write line) c
    let events := c.wiringEvents ++
      [.wired .all, .invoking "Readable" "read", .invoking "Writable" "write"] ++ written.events
    (written.outcome = .returned (.ok ()) ∧ run depth g c =
        ⟨.returned (.ok line), wired written.state.data, events ++ [.greeted (byteLength line)]⟩) ∨
      ∃ e, written.outcome = .returned (.error e) ∧
        run depth g c = ⟨.returned (.error (.stream e)), wired written.state.data, events⟩ := by
  intro line written events
  have hwritten : written = _ := perform_write Standard.contract depth line c
  have hrun := run_delivers hc depth g
  have hpanic := (hw.writeLine line).1
  simp only [events, hwritten]
  rcases hd : (c.data.writer.writeLine line).outcome with _ | e | m
  · refine Or.inl ⟨rfl, ?_⟩
    rw [hrun, hd]
    simp [WriteOutcome.toGreeting, line]
  · refine Or.inr ⟨e, rfl, ?_⟩
    rw [hrun, hd]
    simp [WriteOutcome.toGreeting, line]
  · exact absurd hd (hpanic m)

end

/-- **A run writes its greeting by the console's own routines.**  Take any console, with one slot
    per operation as every console has, whatever the slots hold and whatever was written before, and
    with a writer that does not panic.  A run leaves the tables complete and ends as the console's
    own writing of the line does: it returns the line if that succeeds, and fails with just the error
    of the stream otherwise.  There are no other failures.  A front part of the line with its newline
    is added to the output, and all of it if the run succeeds, however long it is.  The same can be
    said of the next run; so runs in a row that succeed add one line each.  If the output is closed,
    every run fails with a broken pipe. -/
theorem run_writes_greeting (c : Console U) (hc : c.Fits Standard.contract)
    (hw : c.data.writer.NeverPanics) (depth : Nat) :
    (∀ g : Greeting,
      let line := "hello" ++ g.suffix
      let written := Instance.perform Standard.contract depth (write line) c
      let events := c.wiringEvents ++
        [.wired .all, .invoking "Readable" "read", .invoking "Writable" "write"] ++ written.events
      let r := run depth g c
      ((written.outcome = .returned (.ok ()) ∧ r =
          ⟨.returned (.ok line), wired written.state.data, events ++ [.greeted (byteLength line)]⟩) ∨
        ∃ e, written.outcome = .returned (.error e) ∧
          r = ⟨.returned (.error (.stream e)), wired written.state.data, events⟩) ∧
      (∀ k, (r.state.tables k).isComplete) ∧
      (∃ bytes, c.data.Gains bytes r.state.data ∧ bytes <+: utf8 line ++ [0x0a] ∧
        (r.outcome = .returned (.ok line) → bytes = utf8 line ++ [0x0a])) ∧
      r.state.Fits Standard.contract ∧ r.state.data.writer.NeverPanics ∧
      (c.data.writer = .refusing .outputClosed →
        ∃ e, r.outcome = .returned (.error (.stream e)) ∧ e.kind = .brokenPipe)) ∧
    ∀ (gs : List Greeting) lines,
      (gs.mapM (run depth) c).outcome = .returned (lines.map .ok) →
      lines = gs.map ("hello" ++ ·.suffix) ∧
        c.data.Gains (lines.flatMap fun line => utf8 line ++ [0x0a])
          (gs.mapM (run depth) c).state.data := by
  refine ⟨fun g => ?_, fun gs lines => runs_gain hc depth⟩
  intro line written events r
  obtain ⟨bytes, hgains, hpart, hwhole⟩ := run_gains hc depth g
  have hr : r = _ := run_delivers hc depth g
  refine ⟨run_cases hc depth g hw, ?_, ⟨bytes, hgains, hpart, fun h => (hwhole line h).2⟩,
    run_fits hc depth g, ?_, ?_⟩
  · intro k
    rw [show r.state = wired r.state.data from run_wired hc depth g]
    cases k <;> rfl
  · rw [hr]
    exact (hw.writeLine line).2
  · intro hclosed
    rw [hr, hclosed, Writer.writeLine_refusing]
    exact ⟨_, rfl, rfl⟩

/-- A console on which other routines are bound, with a script that has not much left: two runs in a
    row succeed, and on the console that they leave the flush of a third one fails. -/
theorem run_writes_greeting_thrice :
    let other {A R : Ty .empty} (_ : A.Val) : Routine .empty Standard Outlet R.Val := .panic "other"
    let tables : Standard → Table .empty Standard Outlet
      | .readable => ⟨[some ⟨.tuple [], .text, other⟩]⟩
      | .writable => ⟨[some ⟨.tuple [.text], .written, other⟩]⟩
    let writes : List WriteReply := [.accept 3, .accept 9, .accept 1, .fail (.simple .interrupted)]
    let flushes : List FlushReply := [.done, .done, .fail (.system .brokenPipe)]
    let c : Console .empty := ⟨⟨.new (.scripted 0 writes flushes), [.new [0x3e]]⟩, tables⟩
    let two := [{ suffix := "!" }, { suffix := "" }].mapM (run 0) c
    let third := run 0 { suffix := "?" } two.state
    two.outcome = .returned [.ok "hello!", .ok "hello"] ∧
      two.state.data.buffers[0]? = some (.new (utf8 ">hello!\nhello\n")) ∧
      third.outcome = .returned (.error (.stream (.system .brokenPipe))) := by
  intro other tables writes flushes c two third
  have hc : c.Fits Standard.contract := by
    intro k
    cases k <;> rfl
  let middle : Console .empty := wired
    ⟨.new (.scripted 0 [.fail (.simple .interrupted)] [.done, .fail (.system .brokenPipe)]),
      [.new (utf8 ">hello!\n")]⟩
  let last : Console .empty :=
    wired ⟨.new (.scripted 0 [] [.fail (.system .brokenPipe)]), [.new (utf8 ">hello!\nhello\n")]⟩
  have hfirst : run 0 { suffix := "!" } c = ⟨.returned (.ok "hello!"), middle, _⟩ :=
    run_delivers hc 0 { suffix := "!" }
  have hsecond : run 0 { suffix := "" } middle = ⟨.returned (.ok "hello"), last, _⟩ :=
    run_delivers (wired_fits _) 0 { suffix := "" }
  obtain ⟨htwo, hlast⟩ : two.outcome = .returned [.ok "hello!", .ok "hello"] ∧ two.state = last := by
    simp only [two, Effect.mapM_cons_run, hfirst, Run.andThen_returned, hsecond]
    exact ⟨rfl, rfl⟩
  refine ⟨htwo, ?_, ?_⟩
  · obtain ⟨-, hgains⟩ :=
      (run_writes_greeting c hc ⟨by decide, by decide⟩ 0).2 _ ["hello!", "hello"] htwo
    rw [hgains.buffers]
    rfl
  · rcases ((run_writes_greeting last (wired_fits _) ⟨by decide, by decide⟩ 0).1
      { suffix := "?" }).1 with ⟨hwritten, -⟩ | ⟨e, hwritten, hrun⟩
    · cases hwritten
    · cases hwritten
      rw [← hlast] at hrun
      exact congrArg Run.outcome hrun

end Console

end Switchboard
