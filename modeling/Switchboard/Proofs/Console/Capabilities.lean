/-
  Capabilities and bindings.

  A console has the capability of a standard contract iff its table for that contract is complete.
  The table has a single slot, so this is so once a binding of the operation was accepted, by
  whichever of the actions that bind (`DeskAction.Accepts`), and stays so for as long as the table is
  not replaced by an empty one.

  * `contains_capabilities`, `isComplete_iff_not_vacant`: what a capability says about its table;
  * `DeskAction.isComplete_apply`: when a table is complete after an action;
  * `Desk.run_isComplete`: when it is complete after a run;
  * `Desk.capabilities_track_bindings`: the capabilities of a console in terms of its bindings.
-/
import Switchboard.Proofs.Console.Wiring
import Switchboard.Proofs.Declared
import Switchboard.Proofs.Table.Refusals

namespace Switchboard

variable {U : Universe}

/-! ## Tables with a single slot -/

namespace Standard

/-- The capability that stands for a standard contract. -/
def flag : Standard → Capabilities
  | readable => .readable
  | writable => .writable

/-- A standard contract lists its operation and nothing else. -/
theorem eq_of_position? {k : Standard} {o : String} {p : Nat}
    (h : (k.contract (U := U)).position? o = some p) : o = (k.operation U).name ∧ p = 0 := by
  have hlt := Contract.position?_lt h
  obtain rfl : p = 0 := by
    cases k <;> exact Nat.lt_one_iff.1 hlt
  have ho := (Contract.position?_eq_some_iff.1 h).1
  cases k <;> exact ⟨(Option.some.inj ho).symm, rfl⟩

theorem isComplete_iff_not_vacant {k : Standard} {t : Table U Standard Outlet}
    (ht : t.slots.length = (k.contract (U := U)).operations.length) :
    t.isComplete ↔ ¬ t.Vacant k.contract (k.operation U).name := by
  obtain ⟨b, hb⟩ := exists_slots_eq ht
  simp only [Table.Vacant, k.position?_operation, Table.isComplete, hb]
  cases b <;> simp

end Standard

theorem Console.contains_capabilities (c : Console U) (k : Standard) :
    c.capabilities.contains k.flag = (c.tables k).isComplete := by
  unfold capabilities
  cases k <;> cases (c.tables .readable).isComplete <;> cases (c.tables .writable).isComplete <;> rfl

/-- A table is complete after a binding if it was so before, or if its operation was bound. -/
theorem Console.isComplete_bind {c : Console U} (hc : c.Fits Standard.contract) (depth : Nat)
    (k k' : Standard) (o : String) (b : Binding U Standard Outlet) :
    let r := (Action.bind k' o b).apply Standard.contract depth c
    (r.state.tables k).isComplete ↔ (c.tables k).isComplete ∨
      k' = k ∧ o = (k.operation U).name ∧ r.outcome = .returned (.ok .done) := by
  intro r
  rcases Action.apply_bind_cases Standard.contract depth k' o b c with
    ⟨p, hp, -, hr⟩ | ⟨e, hr⟩
  · obtain ⟨ho, rfl⟩ := Standard.eq_of_position? hp
    by_cases hk : k' = k
    · subst hk
      obtain ⟨slot, hslot⟩ := Standard.exists_slots_eq (hc k')
      refine iff_of_true ?_ (Or.inr ⟨rfl, ho, congrArg Run.outcome hr⟩)
      simp [r, hr, hslot, Table.isComplete]
    · simp [r, hr, hk, c.withTable_tables_other _ (Ne.symm hk)]
  · simp [r, hr]

/-! ## Actions -/

namespace Action

variable {κ D : Type}

/-- The contract on whose table alone an action works. -/
def table? : Action U κ D → Option κ
  | bind k _ _ | invoke k _ _ _ _ | isBound k _ | inspect k | clear k => some k
  | perform _ => none

theorem tables_apply_other [DecidableEq κ] {a : Action U κ D} {k k' : κ} (ha : a.table? = some k')
    (h : k ≠ k') (contracts : κ → Contract U) (depth : Nat) (x : Instance U κ D) :
    (a.apply contracts depth x).state.tables k = x.tables k := by
  cases a with
  | bind k'' o b =>
    obtain rfl : k'' = k' := Option.some.inj ha
    rcases apply_bind_cases contracts depth k'' o b x with ⟨p, -, -, hrun⟩ | ⟨e, hrun⟩
    · rw [hrun]
      exact x.withTable_tables_other _ h
    · rw [hrun]
  | clear k'' =>
    obtain rfl : k'' = k' := Option.some.inj ha
    exact x.withTable_tables_other _ h
  | invoke | isBound | inspect | perform => rw [tables_apply rfl]

end Action

namespace Bench

namespace DeskAction

/-- Whether the console is sure to be there after the action, with what was bound before. -/
def retains : DeskAction U → Bool
  | common (.clear _) => false
  | intoWriter => false
  | _ => true

/-- In this action, given how it was answered, a binding of the operation of `k` was accepted.  A
    run reports the bindings that it makes, whatever becomes of its line. -/
def Accepts (k : Standard) : DeskAction U → Answer (DeskReply U) → Prop
  | common (.bind k' o _), r =>
    k' = k ∧ o = (k.operation U).name ∧ r.outcome = .returned (.common (.ok .done))
  | bindDefaults, r | wire, r => r.outcome = .returned (.common (.ok .done))
  | run _, r => ∃ replaced, .bound k.name (k.operation U).name replaced ∈ r.events
  | _, _ => False

/-- **When a table is complete after an action**: it was so before, or the action bound its
    operation. -/
theorem isComplete_apply {c : Console U} (hc : c.Fits Standard.contract) (depth : Nat)
    {a : DeskAction U} (ha : a.retains) (k : Standard) (shown : Option String) :
    let r := a.apply depth c
    (r.state.tables k).isComplete ↔
      (c.tables k).isComplete ∨ a.Accepts k ⟨r.outcome, r.events, shown⟩ := by
  intro r
  have hkept (h : r.state.tables k = c.tables k)
      (hn : ¬ a.Accepts k ⟨r.outcome, r.events, shown⟩) :
      (r.state.tables k).isComplete ↔
        (c.tables k).isComplete ∨ a.Accepts k ⟨r.outcome, r.events, shown⟩ := by
    rw [h, or_iff_left hn]
  have hwired (h : r.state.tables = Console.ownTables)
      (hy : a.Accepts k ⟨r.outcome, r.events, shown⟩) :
      (r.state.tables k).isComplete ↔
        (c.tables k).isComplete ∨ a.Accepts k ⟨r.outcome, r.events, shown⟩ := by
    rw [h]
    exact iff_of_true rfl (Or.inr hy)
  cases a with
  | common b =>
    have hr : r = ⟨_, (b.apply Standard.contract depth c).state, _⟩ := Effect.bind_pure_run _ _ c
    cases b with
    | bind k' o b =>
      have hdone : r.outcome = .returned (.common (.ok .done)) ↔
          ((Action.bind k' o b).apply Standard.contract depth c).outcome =
            .returned (.ok .done) := by
        simp [hr, Outcome.map_eq_returned_iff]
      show _ ↔ _ ∨ k' = k ∧ o = (k.operation U).name ∧ r.outcome = .returned (.common (.ok .done))
      rw [hdone, hr]
      exact Console.isComplete_bind hc depth k k' o b
    | clear k' => cases ha
    | invoke | isBound | inspect | perform =>
      refine hkept ?_ id
      rw [hr, Action.tables_apply rfl]
  | read =>
    refine hkept ?_ id
    simp only [r, apply, Effect.bind_pure_run]
    rfl
  | write message =>
    refine hkept ?_ id
    simp only [r, apply, Effect.bind_pure_run]
    rfl
  | bindDefaults =>
    have hr : r = _ := bindDefaults_apply hc depth
    refine hwired ?_ (congrArg Run.outcome hr)
    rw [hr]
    rfl
  | wire =>
    have hr : r = _ := wire_apply hc depth
    refine hwired ?_ (congrArg Run.outcome hr)
    rw [hr]
    rfl
  | run g =>
    have hr : r = _ := run_apply hc depth g
    refine hwired ?_ ⟨((c.tables k).slot? 0).isSome, ?_⟩
    · rw [hr]
    · rw [hr]
      cases k <;>
        simp [Console.wiringEvents, Standard.name, Standard.operation, Standard.read, Standard.write]
  | detail => exact hkept rfl id
  | capabilities => exact hkept rfl id
  | intoWriter => cases ha

/-- The operation of a standard contract is refused as unbound iff its table is not complete. -/
theorem isComplete_iff_ne_unbound {c : Console U} (hc : c.Fits Standard.contract) (depth : Nat)
    (k : Standard) (args : Ty.Tuple (k.operation U).params) :
    (c.tables k).isComplete ↔ ((common (.generated k (k.operation U) args)).apply depth c).outcome ≠
      .returned (.common (.error (.unbound k.name (k.operation U).name))) := by
  let call := (c.tables k).call k.contract (Instance.dispatch Standard.contract c.tables depth)
    (k.operation U).name (.tuple (k.operation U).params) (k.operation U).ret args c.data
  have hcall : ((common (.generated k (k.operation U) args)).apply depth c).outcome =
      call.outcome.map fun r => .common (r.map (.value (k.operation U).ret)) := by
    simp only [apply, Effect.bind_pure_run, Action.generated_apply, Outcome.map_map]
    rfl
  have hrefused : call.outcome = .returned (.error (.unbound k.name (k.operation U).name)) ↔
      (c.tables k).Vacant k.contract (k.operation U).name := by
    rw [Table.call_eq_error_iff, Table.lookup_eq_error_iff (hc k)]
    exact Table.refusesCall_unbound_iff
  rw [Standard.isComplete_iff_not_vacant (hc k), ← hrefused, hcall]
  rcases call.outcome with (e | v) | m | _ <;> simp [Outcome.map, Except.map]

theorem consumes_of_retains {a : DeskAction U} (ha : a.retains) : a.consumes = false := by
  cases a <;> first | rfl | cases ha

end DeskAction

namespace Desk

variable {n : Nat} {d : Desk U n} {i : Fin n} {s : Seat U}

/-- In a step at seat `j`, given how it was answered, a binding of the operation of `k` was accepted
    on the console at seat `i`. -/
def AcceptedAt (k : Standard) (i j : Fin n) (a : DeskAction U) (answer : DeskAnswer U) : Prop :=
  j = i ∧ ∃ reply written, answer = .answered reply written ∧ a.Accepts k reply

/-- The same in one of several steps. -/
def Accepted (k : Standard) (i : Fin n) (steps : List (Fin n × DeskAction U))
    (answers : List (DeskAnswer U)) : Prop :=
  ∃ p ∈ steps.zip answers, AcceptedAt k i p.1.1 p.1.2 p.2

theorem step_isComplete (hd : d.Fits) (hs : d.seats.get i = some s) (depth : Nat) {j : Fin n}
    {a : DeskAction U} (ha : j = i → a.retains) :
    let next := d.step depth j a
    ∃ s', next.2.seats.get i = some s' ∧
      ∀ k, (s'.tables k).isComplete ↔ (s.tables k).isComplete ∨ AcceptedAt k i j a next.1 := by
  intro next
  by_cases hj : j = i
  · subst hj
    let r := a.apply depth (d.console s)
    refine ⟨⟨r.state.data.out, r.state.tables⟩, ?_, fun k => ?_⟩
    · simp [next, get_step_self hs, DeskAction.consumes_of_retains (ha rfl), r]
    · let shown := a.shownTable.map fun k => (r.state.tables k).detail k.contract
      have hnext : AcceptedAt k j j a next.1 ↔ a.Accepts k ⟨r.outcome, r.events, shown⟩ := by
        simp only [AcceptedAt, next, step_seated hs]
        simp [r, shown]
      rw [hnext]
      exact DeskAction.isComplete_apply (hd j s hs) depth (ha rfl) k shown
  · refine ⟨s, (get_step_other (Ne.symm hj) depth a).trans hs, fun k => ?_⟩
    simp [AcceptedAt, hj]

/-- **When a table is complete after a run**: it was so before, or a step at its seat bound its
    operation. -/
theorem run_isComplete (hd : d.Fits) (hs : d.seats.get i = some s) (depth : Nat)
    {steps : List (Fin n × DeskAction U)} (hsteps : ∀ p ∈ steps, p.1 = i → p.2.retains) :
    let run := d.run depth steps
    ∃ s', run.2.seats.get i = some s' ∧
      ∀ k, (s'.tables k).isComplete ↔ (s.tables k).isComplete ∨ Accepted k i steps run.1 := by
  induction steps generalizing d s with
  | nil => exact ⟨s, hs, fun k => by simp [Accepted]⟩
  | cons p steps ih =>
    obtain ⟨j, a⟩ := p
    obtain ⟨s₁, hs₁, hstep⟩ := step_isComplete hd hs depth (hsteps (j, a) (.head _))
    obtain ⟨s', hs', hrest⟩ := ih (step_fits hd depth j a) hs₁ fun p hp => hsteps p (.tail _ hp)
    refine ⟨s', hs', fun k => ?_⟩
    rw [hrest, hstep, or_assoc]
    simp [Desk.run, Accepted]

/-- What the capability of `k` tells of the console `s`, which is at seat `i` after the steps were
    answered so. -/
structure TracksBindings (depth : Nat) (d : Desk U n) (i : Fin n) (s : Seat U)
    (steps : List (Fin n × DeskAction U)) (answers : List (DeskAnswer U)) (k : Standard) : Prop where
  /-- It is there iff a binding of the contract's operation was accepted. -/
  accepted : (d.console s).capabilities.contains k.flag ↔ Accepted k i steps answers
  /-- It is there iff the operation is not refused as unbound. -/
  callable : ∀ args, (d.console s).capabilities.contains k.flag ↔
    ((DeskAction.common (.generated k (k.operation U) args)).apply depth (d.console s)).outcome ≠
      .returned (.common (.error (.unbound k.name (k.operation U).name)))
  /-- What is done on the table of the other contract does not change it. -/
  apart : ∀ (a : Action U Standard Outlet) k', a.table? = some k' → k' ≠ k →
    ((DeskAction.common a).apply depth (d.console s)).state.capabilities.contains k.flag =
      (d.console s).capabilities.contains k.flag
  /-- It is not lost in whatever follows. -/
  kept : ∀ later : List (Fin n × DeskAction U), (∀ p ∈ later, p.1 = i → p.2.retains) →
    let d' := (d.run depth later).2
    ∃ s', d'.seats.get i = some s' ∧ ((d.console s).capabilities.contains k.flag →
      (d'.console s').capabilities.contains k.flag)

/-- **Capabilities track bindings.**  Consoles with any writers are used in any way, with accepted
    and refused bindings of any names and types, with wirings, with direct calls and calls through
    the tables, and with lines that succeed, fail or panic; only the console at seat `i` is neither
    taken apart nor given an empty table.  Then it has the capability of a contract iff a binding of
    the contract's operation was accepted there by any route, and iff the operation is not refused as
    unbound.  What is done on the table of one contract does not change the capability of the other,
    and no capability is lost in whatever follows. -/
theorem capabilities_track_bindings (depth buffers : Nat) (writers : Vector Writer n) (i : Fin n)
    (steps : List (Fin n × DeskAction U)) (hsteps : ∀ p ∈ steps, p.1 = i → p.2.retains) :
    let run := (start buffers writers).run depth steps
    ∃ s, run.2.seats.get i = some s ∧ ∀ k, TracksBindings depth run.2 i s steps run.1 k := by
  intro run
  have hstart := start_fits (U := U) buffers writers
  have hd : run.2.Fits := run_fits hstart depth steps
  obtain ⟨s, hs, hcomplete⟩ := run_isComplete hstart (get_start buffers writers i) depth hsteps
  refine ⟨s, hs, fun k => ⟨?_, ?_, ?_, ?_⟩⟩ <;> simp only [Console.contains_capabilities]
  · have hempty : ¬ (Table.empty k.contract : Table U Standard Outlet).isComplete := by
      cases k <;> exact Bool.false_ne_true
    exact (hcomplete k).trans (or_iff_right hempty)
  · exact DeskAction.isComplete_iff_ne_unbound (hd i s hs) depth k
  · intro a k' ha hk
    simp only [DeskAction.apply, Effect.bind_pure_run]
    rw [Action.tables_apply_other ha (Ne.symm hk)]
  · intro later hlater
    obtain ⟨s', hs', hcomplete'⟩ := run_isComplete hd hs depth hlater
    exact ⟨s', hs', fun hk => (hcomplete' k).2 (Or.inl hk)⟩

/-- Bindings under a wrong name and on the wrong table are refused and a line panics; then reading is
    bound, which another console's wiring and failing lines do not undo. -/
theorem capabilities_track_bindings_read :
    let read : Binding types Standard Outlet := ⟨.tuple [], .text, fun _ => .done "other"⟩
    let steps : List (Fin 2 × DeskAction types) := [(0, .common (.bind .readable "ready" read)),
      (0, .common (.bind .writable "read" read)), (0, .write "lost"), (1, .wire),
      (0, .common (.bind .readable "read" read))]
    let later : List (Fin 2 × DeskAction types) := [(0, .write "lost again"), (1, .intoWriter)]
    let writers : Vector Writer 2 := #v[.scripted 0 [.panic, .accept 0] [], .shared 0]
    let run := (start 1 writers).run 0 steps
    ∃ s s', run.2.seats.get 0 = some s ∧ (run.2.run 0 later).2.seats.get 0 = some s' ∧
      (run.2.console s).capabilities = .readable ∧
      Accepted .readable 0 steps run.1 ∧ ¬ Accepted .writable 0 steps run.1 ∧
      ((run.2.run 0 later).2.console s').capabilities.contains Standard.readable.flag := by
  intro read steps later writers
  have hcapabilities : let run := (start 1 writers).run 0 steps
      (run.2.seats.get 0).map (fun s => (run.2.console s).capabilities) = some .readable := by
    decide +kernel
  have hall := capabilities_track_bindings 0 1 writers 0 steps (by decide)
  -- from here on it does not matter how the run went
  revert hcapabilities hall
  generalize (start 1 writers).run 0 steps = run
  rintro hcapabilities ⟨s, hs, htracks⟩
  obtain ⟨s', hs', hkept⟩ := (htracks .readable).kept later (by decide)
  have hc : (run.2.console s).capabilities = .readable := by
    simpa [hs] using hcapabilities
  have hread : (run.2.console s).capabilities.contains Standard.readable.flag := by
    rw [hc]
    rfl
  have hwrite : ¬ (run.2.console s).capabilities.contains Standard.writable.flag := by
    rw [hc]
    decide
  exact ⟨s, s', hs, hs', hc, (htracks .readable).accepted.1 hread,
    mt (htracks .writable).accepted.2 hwrite, hkept hread⟩

end Desk

end Bench

end Switchboard
