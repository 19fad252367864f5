/-
  Using a wired console directly and through its tables.

  A wired console can be read and written to in two ways: by its own routines, or by calling the
  operations of the standard contracts.  The second way looks the routine up, and then it is the
  first way with one event in front.  Hence a run in which some of the calls are replaced by direct
  uses is the same run, from the answers to the last byte.

  * `Use.throughTable_apply`: what a call on a wired console does;
  * `Reroutes`: some of the calls at a seat are replaced by direct uses;
  * `table_agrees_with_native`: what such a replacement changes in a run at a desk.
-/
import Switchboard.Proofs.Console.Wiring
import Switchboard.Proofs.Declared

namespace Switchboard.Bench

variable {U : Universe}

/-! ## The two ways -/

/-- A use of a console: reading, or writing a message. -/
inductive Use where
  | read
  | write (message : String)

namespace Use

/-- The contract that has an operation for the use. -/
def key : Use → Standard
  | read => .readable
  | write _ => .writable

/-- The operation for the use. -/
def operation (U : Universe) (u : Use) : Declaration U :=
  u.key.operation U

/-- What the operation is given. -/
def args : (u : Use) → Ty.Tuple (u.operation U).params
  | read => ()
  | write message => (message, ())

/-- The console's own routine for the use. -/
def routine : (u : Use) → Routine U Standard Outlet (u.operation U).ret.Val
  | read => Console.read
  | write message => Console.write message

/-- How the result of a direct use is shown. -/
def reply : (u : Use) → (u.operation U).ret.Val → DeskReply U
  | read => .text
  | write _ => .written

/-- The direct use. -/
def native : Use → DeskAction U
  | read => .read
  | write message => .write message

/-- The use by a call of the declared operation, that is by invoking its name at its types. -/
def throughTable (u : Use) : DeskAction U :=
  .common (.generated u.key (u.operation U) u.args)

theorem native_apply (u : Use) (depth : Nat) (c : Console U) :
    let r := Instance.perform Standard.contract depth u.routine c
    u.native.apply depth c = ⟨r.outcome.map u.reply, r.state, r.events⟩ := by
  cases u <;> simp only [native, DeskAction.apply, Effect.bind_pure_run] <;> rfl

/-- A wired console holds its own routine where a call looks for it. -/
theorem slot?_ownTables (u : Use) : ∃ f, f u.args = u.routine ∧
    (Console.ownTables u.key).slot? 0 =
      some ⟨.tuple (u.operation U).params, (u.operation U).ret, f⟩ := by
  cases u with
  | read => exact ⟨fun _ => Console.read, rfl, rfl⟩
  | write message => exact ⟨fun args => Console.write args.1, rfl, rfl⟩

/-- A call through a console's own table runs the console's own routine. -/
theorem call_own (u : Use) (dispatch : Dispatch U Standard Outlet) (outlet : Outlet) :
    (Console.ownTables u.key).call u.key.contract dispatch (u.operation U).name
        (.tuple (u.operation U).params) (u.operation U).ret u.args outlet =
      (u.routine.exec dispatch outlet).invoked u.key.name (u.operation U).name := by
  obtain ⟨f, hf, hslot⟩ := u.slot?_ownTables
  rw [← hf]
  exact Table.call_eq_invoked u.key.position?_operation hslot u.key.signs_operation _ _ _

/-- **A call on a wired console runs the console's own routine**, after the event that announces
    it; what the routine returns, a failure of the stream included, is the value of the call. -/
theorem throughTable_apply (u : Use) (depth : Nat) {c : Console U}
    (hc : c.tables = Console.ownTables) :
    let r := Instance.perform Standard.contract depth u.routine c
    u.throughTable.apply depth c =
      ⟨r.outcome.map fun v => .common (.ok (.value (u.operation U).ret v)), r.state,
        .invoking u.key.name (u.operation U).name :: r.events⟩ := by
  intro r
  have hcall := u.call_own (Instance.dispatch Standard.contract c.tables depth) c.data
  rw [← hc] at hcall
  simp only [throughTable, DeskAction.apply, Effect.bind_pure_run, Action.generated_apply]
  rw [hcall]
  simp only [Run.invoked, Outcome.map_map]
  rfl

/-- Two answers to the same use agree: the answer of the table has the result of the direct use as
    its value, and the events of the direct use after the one that announces the call. -/
def Agree (u : Use) (table native : DeskAnswer U) : Prop :=
  ∃ (result : Outcome (u.operation U).ret.Val) (events : List Event) (written : List Nat),
    native = .answered ⟨result.map u.reply, events, none⟩ written ∧
    table = .answered ⟨result.map fun v => .common (.ok (.value (u.operation U).ret v)),
      .invoking u.key.name (u.operation U).name :: events, none⟩ written

end Use

/-! ## Runs -/

/-- The second sequence of steps is the first with some of the calls at seat `i` replaced by direct
    uses.  Before the last of these, nothing is done at the seat that could undo its wiring; after
    it, anything may be done. -/
inductive Reroutes {n : Nat} (i : Fin n) :
    List (Fin n × DeskAction U) → List (Fin n × DeskAction U) → Prop
  | rest (steps : List (Fin n × DeskAction U)) : Reroutes i steps steps
  | keep {j : Fin n} {a : DeskAction U} {steps steps' : List (Fin n × DeskAction U)}
      (h : j = i → a.keepsWiring) :
      Reroutes i steps steps' → Reroutes i ((j, a) :: steps) ((j, a) :: steps')
  | native (u : Use) {steps steps' : List (Fin n × DeskAction U)} :
      Reroutes i steps steps' → Reroutes i ((i, u.throughTable) :: steps) ((i, u.native) :: steps')

namespace Desk

variable {n : Nat} {d : Desk U n} {i : Fin n}

/-- A call and a direct use of a wired console lead to the same desk, with answers that agree. -/
theorem step_throughTable (hd : d.Wired i) (depth : Nat) (u : Use) :
    let table := d.step depth i u.throughTable
    let native := d.step depth i u.native
    table.2 = native.2 ∧ u.Agree table.1 native.1 := by
  obtain ⟨s, hs, htables⟩ := hd
  intro table native
  have hnative : native = _ := step_seated hs depth u.native
  have htable : table = _ := step_seated hs depth u.throughTable
  rw [u.native_apply] at hnative
  rw [u.throughTable_apply depth htables] at htable
  rw [hnative, htable]
  let r := Instance.perform Standard.contract depth u.routine (d.console s)
  cases u <;> exact ⟨rfl, r.outcome, r.events, r.state.data.buffers.map (·.bytes.length), rfl, rfl⟩

/-- The same at every step of a run: where the steps are the same the answers are, and where a call
    was replaced they agree. -/
theorem run_reroutes (hd : d.Wired i) (depth : Nat) {steps steps' : List (Fin n × DeskAction U)}
    (h : Reroutes i steps steps') :
    let run := d.run depth steps
    let run' := d.run depth steps'
    run.2 = run'.2 ∧
    (∀ t : Nat, steps[t]? = steps'[t]? → run.1[t]? = run'.1[t]?) ∧
    ∀ (t : Nat) u, steps[t]? = some (i, Use.throughTable u) → steps'[t]? = some (i, u.native) →
      ∃ table native, run.1[t]? = some table ∧ run'.1[t]? = some native ∧ u.Agree table native := by
  induction h generalizing d with
  | rest steps =>
    refine ⟨rfl, fun _ _ => rfl, fun t u ht ht' => ?_⟩
    cases u <;> cases ht.symm.trans ht'
  | @keep j a steps steps' ha _ ih =>
    obtain ⟨hdesk, hsame, hagree⟩ := ih (step_wired hd depth ha)
    refine ⟨hdesk, fun t ht => ?_, fun t u ht ht' => ?_⟩
    · cases t with
      | zero => rfl
      | succ t => exact hsame t ht
    · cases t with
      | zero => cases u <;> cases ht.symm.trans ht'
      | succ t => exact hagree t u ht ht'
  | @native u steps steps' _ ih =>
    obtain ⟨hstep, hfirst⟩ := step_throughTable hd depth u
    have hwired : (d.step depth i u.native).2.Wired i :=
      step_wired hd depth fun _ => by cases u <;> rfl
    obtain ⟨hdesk, hsame, hagree⟩ := ih hwired
    simp only [run, hstep]
    refine ⟨hdesk, fun t ht => ?_, fun t v ht ht' => ?_⟩
    · cases t with
      | zero => cases u <;> cases ht
      | succ t => exact hsame t ht
    · cases t with
      | zero =>
        obtain rfl : u = v := by cases u <;> cases v <;> cases ht' <;> rfl
        exact ⟨_, _, rfl, rfl, hfirst⟩
      | succ t => exact hagree t v ht ht'

/-- **Going through the tables agrees with using the console directly.**  Consoles with any writers
    were used in any way, and then one of them is wired, in either of the two ways.  That succeeds.
    Take any steps that follow, at its own seat and at others, and replace some of the calls of its
    operations by direct uses.  In the end every buffer, writer and table is the same.  Every other
    step is answered as before.  A call is answered by the very result of the direct use, a failure
    or a panic of the writer included, and never by a failure of its own; only the event that
    announces it stands before those of the direct use. -/
theorem table_agrees_with_native (depth buffers : Nat) (writers : Vector Writer n)
    (prior : List (Fin n × DeskAction U)) (i : Fin n)
    (hprior : ∀ p ∈ prior, p.1 = i → p.2.consumes = false)
    (wiring : DeskAction U) (hw : wiring = .bindDefaults ∨ wiring = .wire) :
    let wired := ((start buffers writers).run depth prior).2.step depth i wiring
    (∃ events written, wired.1 = .answered ⟨.returned (.common (.ok .done)), events, none⟩ written) ∧
    ∀ steps steps', Reroutes i steps steps' →
      let run := wired.2.run depth steps
      let run' := wired.2.run depth steps'
      run.2 = run'.2 ∧
      (∀ t : Nat, steps[t]? = steps'[t]? → run.1[t]? = run'.1[t]?) ∧
      ∀ (t : Nat) u, steps[t]? = some (i, Use.throughTable u) → steps'[t]? = some (i, u.native) →
        ∃ table native, run.1[t]? = some table ∧ run'.1[t]? = some native ∧
          u.Agree table native := by
  let d := ((start buffers writers).run depth prior).2
  have hi : (d.seats.get i).isSome := run_occupied (by rw [get_start]; rfl) depth hprior
  obtain ⟨s, hs⟩ := Option.isSome_iff_exists.1 hi
  have hd : d.Fits := run_fits (start_fits buffers writers) depth prior
  intro wired
  have hwired : (∃ events written,
      wired.1 = .answered ⟨.returned (.common (.ok .done)), events, none⟩ written) ∧
      wired.2 = d.rewired i s.out := by
    rcases hw with rfl | rfl
    · have h : wired = _ := step_bindDefaults hd hs depth
      rw [h]
      exact ⟨⟨_, _, rfl⟩, rfl⟩
    · have h : wired = _ := step_wire hd hs depth
      rw [h]
      exact ⟨⟨_, _, rfl⟩, rfl⟩
  refine ⟨hwired.1, fun steps steps' h => ?_⟩
  rw [hwired.2]
  exact run_reroutes (d.rewired_wired i s.out) depth h

/-- Reading was bound to something else, and the writer stops in the middle of a line and then
    panics.  Replacing all calls changes nothing, and the call that fails gives the error of the
    stream as its value. -/
theorem table_agrees_with_native_script :
    let script := Writer.scripted 0 [.accept 1, .accept 0, .panic] []
    let other : Binding types Standard Outlet := ⟨.tuple [], .text, fun _ => .done "other"⟩
    let prior : List (Fin 2 × DeskAction types) :=
      [(0, .common (.bind .readable "read" other)), (1, .write "x")]
    let wired := (((start 1 #v[script, .shared 0]).run 0 prior).2.step 0 0 .wire).2
    let run := wired.run 0 [(0, (Use.write "ab").throughTable), (1, .write "y"),
      (0, Use.read.throughTable), (0, (Use.write "c").throughTable), (0, .intoWriter)]
    let run' := wired.run 0 [(0, .write "ab"), (1, .write "y"), (0, .read), (0, .write "c"),
      (0, .intoWriter)]
    run.2 = run'.2 ∧ run.1[4]? = run'.1[4]? ∧
      run.1[0]? = some (.answered ⟨.returned (.common (.ok (.value .written
        (.error .wroteNothing)))), [.invoking "Writable" "write"], none⟩ [3]) := by
  intro script other prior wired run run'
  obtain ⟨-, hrun⟩ := table_agrees_with_native 0 1 #v[script, .shared 0] prior 0 (by decide) .wire
    (.inr rfl)
  obtain ⟨hdesk, hsame, hagree⟩ := hrun _ _ (.native (.write "ab") (.keep (j := 1) (a := .write "y")
    (by decide) (.native .read (.native (.write "c") (.rest [(0, .intoWriter)])))))
  let tables (k : Standard) : Table types Standard Outlet := .empty k.contract
  have hstart : start 1 #v[script, .shared 0] =
      ⟨[.new []], #v[some ⟨.new script, tables⟩, some ⟨.new (.shared 0), tables⟩]⟩ := by
    simp only [start, Vector.map_mk, List.map_toArray]
    rfl
  have hnative : run'.1[0]? =
      some (.answered ⟨.returned (.written (.error .wroteNothing)), [], none⟩ [3]) := by
    simp only [run', wired, hstart]
    rfl
  obtain ⟨_, _, htable, hnative', result, events, written, rfl, rfl⟩ := hagree 0 (.write "ab") rfl rfl
  refine ⟨hdesk, hsame 4 rfl, htable.trans ?_⟩
  rcases result with r | m | _ <;> cases hnative'.symm.trans hnative
  rfl

end Desk

end Switchboard.Bench
