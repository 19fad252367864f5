/-
  Calls through the table of another instance.

  A call needs a table, which says what to run, and an instance, on which it runs.  The two need not
  belong together.  Calling through the table of `i` on instance `j` looks like giving `j` the table
  of `i` for the moment, and so it is, as long as the run does not come back to a table of the same
  contract: the calls that a routine makes go through the tables of the instance on which it runs,
  and that is where the two ways differ.

  * `Routine.Confined`: the calls that a run of a routine makes are among given ones;
  * `exec_congr`, `dispatch_congr`: a run depends on the calls that it makes, and on no others;
  * `Instance.Bypasses`: a call that stays clear of a contract, with all calls within it;
  * `run_exchanging`: an exchange of tables, a call, and the exchange back;
  * `foreign_call_eq_exchanged`: when the two ways agree, and what both of them leave alone.
-/
import Switchboard.Bench.Probe
import Switchboard.Proofs.Session.Frame

namespace Switchboard

variable {U : Universe}

/-! ## The calls of a run -/

/-- Some calls, each with the data on which it is made. -/
abbrev Calls (U : Universe) (κ D : Type) : Type :=
  (contract : κ) → (operation : String) → (A R : Ty U) → A.Val → D → Prop

theorem Run.andThen_congr {σ α β : Type} {r : Run σ α} {f g : α → σ → Run σ β}
    (h : ∀ a, r.outcome = .returned a → f a r.state = g a r.state) : r.andThen f = r.andThen g := by
  obtain ⟨_ | _ | _, s, es⟩ := r
  · simp [h _ rfl]
  · rfl
  · rfl

namespace Routine

variable {κ D ρ : Type}

/-- Every call that the routine makes when it runs on the given data is among the given ones. -/
def Confined (dispatch : Dispatch U κ D) (calls : Calls U κ D) : Routine U κ D ρ → D → Prop
  | done _, _ | panic _, _ => True
  | get next, d => (next d).Confined dispatch calls d
  | set d next, _ => next.Confined dispatch calls d
  | emit _ next, d => next.Confined dispatch calls d
  | call k o A R args next, d =>
    calls k o A R args d ∧ ∀ r, (dispatch k o A R args d).outcome = .returned r →
      (next r).Confined dispatch calls (dispatch k o A R args d).state

/-- **A run depends on the calls that it makes**, and on no others. -/
theorem exec_congr {dispatch dispatch' : Dispatch U κ D} {calls : Calls U κ D} {x : Routine U κ D ρ}
    (h : ∀ k o A R args d, calls k o A R args d →
      dispatch k o A R args d = dispatch' k o A R args d) {d : D}
    (hx : x.Confined dispatch calls d) : x.exec dispatch d = x.exec dispatch' d := by
  induction x generalizing d with
  | done r => rfl
  | panic m => rfl
  | get next ih => exact ih d hx
  | set d' next ih => exact ih hx
  | emit e next ih =>
    simp only [exec, Effect.emit_bind]
    rw [ih hx]
  | call k o A R args next ih =>
    obtain ⟨hcall, hnext⟩ := hx
    simp only [exec, Effect.bind_run]
    rw [← h k o A R args d hcall]
    exact Run.andThen_congr fun r hr => ih r (hnext r hr)

end Routine

theorem Table.call_congr {κ D : Type} {c : Contract U} {t : Table U κ D}
    {dispatch dispatch' : Dispatch U κ D} {o : String} {A R : Ty U} {args : A.Val} {d : D}
    (h : ∀ f, t.lookup c o A R = .ok f →
      (f args).exec dispatch d = (f args).exec dispatch' d) :
    t.call c dispatch o A R args d = t.call c dispatch' o A R args d := by
  unfold call
  cases hl : t.lookup c o A R with
  | error e => rfl
  | ok f => simp only [Effect.emit_bind, Effect.bind_pure_run, h f hl]

namespace Instance

variable {κ D ρ : Type} {contracts : κ → Contract U} {tables tables' : κ → Table U κ D} {k : κ}

/-- The call is not of contract `k`, and neither is any call within it, however deeply nested. -/
def Bypasses (contracts : κ → Contract U) (tables : κ → Table U κ D) (k : κ) : Nat → Calls U κ D
  | 0 => fun k' _ _ _ _ _ => k' ≠ k
  | depth + 1 => fun k' o A R args d => k' ≠ k ∧
    ∀ f, (tables k').lookup (contracts k') o A R = .ok f →
      (f args).Confined (dispatch contracts tables depth) (Bypasses contracts tables k depth) d

/-- Such a call does not notice another table for the contract. -/
theorem dispatch_congr (htables : ∀ k', k' ≠ k → tables k' = tables' k') (depth : Nat) :
    ∀ k' o A R args d, Bypasses contracts tables k depth k' o A R args d →
      dispatch contracts tables depth k' o A R args d =
        dispatch contracts tables' depth k' o A R args d := by
  induction depth with
  | zero => intro k' o A R args d _; rfl
  | succ depth ih =>
    intro k' o A R args d h
    obtain ⟨hk, hf⟩ := h
    simp only [dispatch, ← htables k' hk]
    exact Table.call_congr fun f hl => Routine.exec_congr ih (hf f hl)

theorem eq_of_tables {x y : Instance U κ D} (hd : x.data = y.data)
    (ht : ∀ k, x.tables k = y.tables k) : x = y := by
  obtain ⟨d, ts⟩ := x
  obtain ⟨d', ts'⟩ := y
  obtain rfl : d = d' := hd
  obtain rfl : ts = ts' := funext ht
  rfl

/-- The call that a routine makes is a call on the instance on which it runs. -/
theorem perform_call (contracts : κ → Contract U) (depth : Nat) (o : String) (A R : Ty U)
    (args : A.Val) (next : Except Failure R.Val → Routine U κ D ρ) (x : Instance U κ D) :
    perform contracts (depth + 1) (.call k o A R args next) x =
      (invoke contracts depth k o A R args x).andThen fun r =>
        perform contracts (depth + 1) (next r) := by
  simp only [invoke_eq_callThrough, perform, callThrough, onData, Effect.zoom, Routine.exec,
    Effect.bind_run, dispatch]
  rcases (x.tables k).call (contracts k) (dispatch contracts x.tables depth) o A R args x.data with
    ⟨_ | m | _, d, es⟩ <;> rfl

end Instance

/-! ## Exchanges -/

namespace Session

variable {κ D : Type} {n : Nat}

theorem eq_of_members {s s' : Session U κ D n} (hc : s.contracts = s'.contracts)
    (hd : ∀ l, (s.member l).data = (s'.member l).data)
    (ht : ∀ l k, (s.member l).tables k = (s'.member l).tables k) : s = s' := by
  have hm : ∀ l, s.member l = s'.member l := fun l => Instance.eq_of_tables (hd l) (ht l)
  obtain ⟨c, ms⟩ := s
  obtain ⟨c', ms'⟩ := s'
  obtain rfl : c = c' := hc
  congr
  apply Vector.ext
  intro l hl
  exact hm ⟨l, hl⟩

variable [DecidableEq κ]

theorem tables_swap (depth : Nat) (s : Session U κ D n) (i j l : Fin n) (k k' : κ) :
    ((s.step depth (.swap i j k)).2.member l).tables k' =
      if l = j ∧ k' = k then (s.member i).tables k
      else if l = i ∧ k' = k then (s.member j).tables k else (s.member l).tables k' := by
  simp only [step, withMember_withTable_tables]

theorem data_swap (depth : Nat) (s : Session U κ D n) (i j l : Fin n) (k : κ) :
    ((s.step depth (.swap i j k)).2.member l).data = (s.member l).data := by
  simp only [step, withMember_withTable_data]

/-- The steps that give instance `j` the table of `i` for one call. -/
def exchanging (i j : Fin n) (k : κ) (o : String) (A R : Ty U) (args : A.Val) :
    List (Step U κ D n) :=
  [.swap i j k, .act j (.invoke k o A R args), .swap i j k]

/-- The answer to a step that was carried out and has nothing to tell. -/
def doneAnswer : Answer (Except Failure (Reply U)) := ⟨.returned (.ok .done), [], none⟩

/-- **An exchange of tables, a call, and the exchange back.**  The call runs what the table of `i`
    holds on instance `j`, and calls within it find that table too.  In the end all tables are where
    they were, and only the data of `j` are those that the call left. -/
theorem run_exchanging (depth : Nat) (s : Session U κ D n) (i j : Fin n) (k : κ) (o : String)
    (A R : Ty U) (args : A.Val) :
    let t := (s.member i).tables k
    let r := t.call (s.contracts k)
      (Instance.dispatch s.contracts ((s.member j).withTable k t).tables depth) o A R args
      (s.member j).data
    s.run depth (exchanging i j k o A R args) =
      ([doneAnswer, ⟨r.outcome.map (·.map (.value R)), r.events, none⟩, doneAnswer],
        s.withMember j { s.member j with data := r.state }) := by
  intro t r
  let s₁ := (s.step depth (.swap i j k)).2
  let s₂ := s₁.withMember j { s₁.member j with data := r.state }
  have hj : s₁.member j = (s.member j).withTable k t := by
    refine Instance.eq_of_tables (data_swap depth s i j j k) fun k' => ?_
    simp only [s₁, tables_swap, Instance.withTable, t]
    by_cases hk : k' = k <;> simp [hk]
  have hcall : s₁.step depth (.act j (.invoke k o A R args)) =
      (⟨r.outcome.map (·.map (.value R)), r.events, none⟩, s₂) := by
    rw [step_invoke, step_callThrough]
    simp only [s₂, hj, Instance.withTable_tables_self]
    rfl
  have hback : (s₂.step depth (.swap i j k)).2 =
      s.withMember j { s.member j with data := r.state } := by
    refine eq_of_members rfl (fun l => ?_) fun l k' => ?_
    · rw [data_swap]
      by_cases hl : l = j
      · subst hl
        simp [s₂]
      · simp [s₂, withMember_member_other _ hl, s₁, data_swap]
    · simp only [tables_swap, s₂, withMember_data_tables, s₁]
      by_cases hk : k' = k
      · subst hk
        by_cases hj : l = j <;> by_cases hi : l = i <;> simp_all
      · simp [hk]
  calc s.run depth (exchanging i j k o A R args)
      = ([doneAnswer, (s₁.step depth (.act j (.invoke k o A R args))).1, doneAnswer],
          ((s₁.step depth (.act j (.invoke k o A R args))).2.step depth (.swap i j k)).2) := rfl
    _ = _ := by rw [hcall, hback]

/-! ## Foreign calls -/

/-- The two sessions have the same contracts, the same table of `i` for contract `k`, and the same
    instance `j`.  The data of `i` may differ, and so may everything else. -/
structure AgreeFor (i j : Fin n) (k : κ) (s s' : Session U κ D n) : Prop where
  contracts : s'.contracts = s.contracts
  table : (s'.member i).tables k = (s.member i).tables k
  member : s'.member j = s.member j

/-- A call through the table of `i` on instance `j` performs the routine that it finds there on `j`,
    after the event that announces it. -/
theorem step_callThrough_perform {s : Session U κ D n} {i : Fin n} {k : κ} {o : String} {A R : Ty U}
    {f : A.Val → Routine U κ D R.Val}
    (hf : ((s.member i).tables k).lookup (s.contracts k) o A R = .ok f) (depth : Nat) (j : Fin n)
    (args : A.Val) :
    let r := Instance.perform s.contracts depth (f args) (s.member j)
    s.step depth (.callThrough i j k o A R args) =
      (⟨r.outcome.map fun v => .ok (.value R v), .invoking (s.contracts k).name o :: r.events, none⟩,
        s.withMember j r.state) := by
  intro r
  obtain ⟨p, hp, hslot, hcheck⟩ := Table.lookup_eq_ok_iff.1 hf
  rw [step_callThrough, Table.call_eq_invoked hp hslot (Contract.check_iff_signs.1 hcheck)]
  simp only [Run.invoked, Outcome.map_map]
  rfl

section
variable {s : Session U κ D n} (depth : Nat) (i j : Fin n) (k : κ) (o : String) (A R : Ty U)
  (args : A.Val)

/-- What such a call looks at is the same in sessions that agree, and so is what it does. -/
theorem callThrough_agree :
    ∃ data, ∀ s', AgreeFor i j k s s' → s'.step depth (.callThrough i j k o A R args) =
      ((s.step depth (.callThrough i j k o A R args)).1,
        s'.withMember j { s'.member j with data }) := by
  let r := ((s.member i).tables k).call (s.contracts k)
    (Instance.dispatch s.contracts (s.member j).tables depth) o A R args (s.member j).data
  refine ⟨r.state, fun s' hs' => ?_⟩
  rw [step_callThrough, step_callThrough, hs'.contracts, hs'.table, hs'.member]

/-- The same holds of a call with tables exchanged. -/
theorem exchanging_agree :
    ∃ answer data, ∀ s', AgreeFor i j k s s' → s'.run depth (exchanging i j k o A R args) =
      ([doneAnswer, answer, doneAnswer], s'.withMember j { s'.member j with data }) := by
  let t := (s.member i).tables k
  let r := t.call (s.contracts k)
    (Instance.dispatch s.contracts ((s.member j).withTable k t).tables depth) o A R args
    (s.member j).data
  refine ⟨⟨r.outcome.map (·.map (.value R)), r.events, none⟩, r.state, fun s' hs' => ?_⟩
  rw [run_exchanging, hs'.contracts, hs'.table, hs'.member]

/-- A call that stays clear of the contract does not notice which table `j` has for it. -/
theorem exchanged_eq_foreign
    (hf : ∀ f, ((s.member i).tables k).lookup (s.contracts k) o A R = .ok f →
      (f args).Confined (Instance.dispatch s.contracts (s.member j).tables depth)
        (Instance.Bypasses s.contracts (s.member j).tables k depth) (s.member j).data) :
    let foreign := s.step depth (.callThrough i j k o A R args)
    s.run depth (exchanging i j k o A R args) =
      ([doneAnswer, foreign.1, doneAnswer], foreign.2) := by
  intro foreign
  have hother : ∀ k', k' ≠ k → (s.member j).tables k' =
      ((s.member j).withTable k ((s.member i).tables k)).tables k' := by
    intro k' hk
    rw [Instance.withTable_tables_other _ _ hk]
  have hcall := Table.call_congr fun f hl =>
    Routine.exec_congr (Instance.dispatch_congr hother depth) (hf f hl)
  simp only [foreign, run_exchanging, step_callThrough, hcall]

end

end Session

namespace Bench

/-- Two probes.  Getting on the first one greets on the probe on which it runs, and adding gives
    different numbers on the two; what greeting does on the second one is left open. -/
def relay (greet : Behaviour Key .text) : Session Bench.types Key Probe 2 :=
  let getting : Behaviour Key (.base .uint32) :=
    .forward .greeter "greet" (.tuple [.text]) .text ("x", ())
  let adding (n : UInt32) : Behaviour Key (.base .uint32) := .const n
  let fresh : Session Bench.types Key Probe 2 :=
    ⟨Key.contract, #v[.fresh Key.contract { serial := 1 }, .fresh Key.contract { serial := 2 }]⟩
  (fresh.run 0
    [.act 0 (.bind .counter "get" (getting.binding (.tuple []))),
      .act 0 (.bind .counter "add" ((adding 7).binding (.tuple [.base .uint32]))),
      .act 1 (.bind .counter "add" ((adding 100).binding (.tuple [.base .uint32]))),
      .act 1 (.bind .greeter "greet" (greet.binding (.tuple [.text])))]).2

end Bench

namespace Session

open Bench (Key Probe relay)

end Session

end Switchboard
