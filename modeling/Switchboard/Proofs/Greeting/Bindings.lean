/-
  Greetings over whatever is bound.

  A greeting makes two calls, and what they run is a matter of the tables.  The second call acts on
  the data that the first one left, and a failure of the second undoes nothing.  The two kinds of
  failure stay apart: a refused call is a failure of the greeting as it is, while a failure of the
  stream comes as the value of a call that got through.

  * `Instance.Reached`: the tables for the standard contracts have a history;
  * `Instance.dispatch_standard_cases`: what a call of a standard operation does then;
  * `exec_greet`: a greeting is its two calls in a row;
  * `exec_greet_returned`: what it can return;
  * `greet_runs_what_is_bound`: what a greeting runs, in which order, and how it ends.
-/
import Switchboard.Greeting
import Switchboard.Proofs.Console.Wiring
import Switchboard.Proofs.Declared

namespace Switchboard

variable {U : Universe}

/-! ## Calls of the standard operations -/

section
variable {κ D : Type}

/-- The binding accepted last for the operation of a standard contract. -/
def Standard.lastAccepted (s : Standard) (h : List (Request U κ D)) : Option (Binding U κ D) :=
  (Board.start s.contract).lastAccepted h (s.operation U).name

variable [HasStandard κ]

/-- The standard contracts are among the given ones, and the instance's tables for them were reached
    by the histories `h` of accepted and refused bindings. -/
structure Instance.Reached (contracts : κ → Contract U) (x : Instance U κ D)
    (h : Standard → List (Request U κ D)) : Prop where
  contract : ∀ s, contracts (HasStandard.key s) = s.contract
  keeps : ∀ s, ∀ r ∈ h s, r.KeepsSignatures
  table : ∀ s, x.tables (HasStandard.key s) = ((Board.start s.contract).after (h s)).table

/-- The call of a standard operation is refused as unbound if nothing was accepted for it, and runs
    the routine accepted last otherwise. -/
theorem Instance.dispatch_standard_cases {contracts : κ → Contract U} {x : Instance U κ D}
    {h : Standard → List (Request U κ D)} (hx : x.Reached contracts h) (depth : Nat) (s : Standard)
    (args : Ty.Tuple (s.operation U).params) (data : D) :
    let o := (s.operation U).name
    let call := dispatch contracts x.tables (depth + 1) (HasStandard.key s) o
      (.tuple (s.operation U).params) (s.operation U).ret args data
    (s.lastAccepted (h s) = none ∧ call = .rejected s.name o (.unbound s.name o) data) ∨
    (∃ f, s.lastAccepted (h s) = some ⟨.tuple (s.operation U).params, (s.operation U).ret, f⟩ ∧
      call = ((f args).exec (dispatch contracts x.tables depth) data).invoked s.name o) := by
  intro o call
  have hlisted : o ∈ s.contract.operations :=
    Contract.exists_position?_iff.1 ⟨0, s.position?_operation⟩
  have hsig : s.contract.signature o = some (s.operation U).signature := by
    cases s <;> rfl
  have hcall : call = ((Board.start s.contract).after (h s)).table.call s.contract
      (dispatch contracts x.tables depth) o (.tuple (s.operation U).params) (s.operation U).ret args
      data := by
    simp only [call, dispatch, hx.contract, hx.table]
  rw [hcall]
  exact call_declared_cases hsig (hx.keeps s) hlisted (dispatch contracts x.tables depth) args data

section
variable {contracts : κ → Contract U} {x : Instance U κ D} {h : Standard → List (Request U κ D)}
  (hx : x.Reached contracts h) (depth : Nat)
include hx

theorem Instance.eq_unbound_of_dispatch_standard {depth : Nat} {s : Standard}
    {args : Ty.Tuple (s.operation U).params} {data : D} {e : Failure}
    (he : (dispatch contracts x.tables (depth + 1) (HasStandard.key s) (s.operation U).name
      (.tuple (s.operation U).params) (s.operation U).ret args data).outcome = .returned (.error e)) :
    e = .unbound s.name (s.operation U).name := by
  rcases dispatch_standard_cases hx depth s args data with ⟨-, hcall⟩ | ⟨f, -, hcall⟩
  · rw [hcall] at he
    simpa [Run.rejected] using he.symm
  · rw [hcall] at he
    exact absurd he (Run.invoked_ne_error _ _ _ e)

theorem Instance.dispatch_read_cases (data : D) :
    let last := Standard.readable.lastAccepted (h .readable)
    let call := dispatch contracts x.tables (depth + 1) (HasStandard.key .readable) "read"
      (.tuple []) .text () data
    (last = none ∧ call = .rejected "Readable" "read" (.unbound "Readable" "read") data) ∨
    (∃ read, last = some ⟨.tuple [], .text, fun _ => read⟩ ∧
      call = (read.exec (dispatch contracts x.tables depth) data).invoked "Readable" "read") := by
  intro last call
  rcases dispatch_standard_cases hx depth .readable () data with ⟨hnone, hcall⟩ | ⟨f, hf, hcall⟩
  · exact Or.inl ⟨hnone, hcall⟩
  · exact Or.inr ⟨f (), hf, hcall⟩

theorem Instance.dispatch_write_cases (message : String) (data : D) :
    let last := Standard.writable.lastAccepted (h .writable)
    let call := dispatch contracts x.tables (depth + 1) (HasStandard.key .writable) "write"
      (.tuple [.text]) .written (message, ()) data
    (last = none ∧ call = .rejected "Writable" "write" (.unbound "Writable" "write") data) ∨
    (∃ write, last = some ⟨.tuple [.text], .written, write⟩ ∧
      call = ((write (message, ())).exec (dispatch contracts x.tables depth) data).invoked "Writable"
        "write") := by
  intro last call
  rcases dispatch_standard_cases hx depth .writable (message, ()) data with
    ⟨hnone, hcall⟩ | ⟨f, hf, hcall⟩
  · exact Or.inl ⟨hnone, hcall⟩
  · exact Or.inr ⟨f, hf, hcall⟩

end

end

/-! ## Greetings -/

section
variable {κ D : Type}

/-- A continued run returns iff both parts return. -/
theorem Run.outcome_andThen_iff {α β : Type} {r : Run D α} {f : α → D → Run D β} {b : β} :
    (r.andThen f).outcome = .returned b ↔
      ∃ a, r.outcome = .returned a ∧ (f a r.state).outcome = .returned b := by
  rcases r with ⟨_ | m | _, data, es⟩
  · simp [after]
  · simp
  · simp

theorem Run.invoked_of_returned {α : Type} {r : Run D α} {v : α} {data : D} {es : List Event}
    (h : r = ⟨.returned v, data, es⟩) (c o : String) :
    r.invoked c o = ⟨.returned (.ok v), data, .invoking c o :: es⟩ := by
  rw [h]
  rfl

theorem Routine.exec_invoke (dispatch : Dispatch U κ D) (k : κ) (o : String) (A R : Ty U)
    (args : A.Val) :
    (invoke k o A R args : Routine U κ D _).exec dispatch = dispatch k o A R args := by
  simp [invoke, exec]

/-- How a greeting ends when the call that writes the line gave this. -/
def Greeting.closing (line : String) :
    Except Failure (Except StreamError Unit) → D → Run D (Except Failure String)
  | .error e, data => ⟨.returned (.error e), data, []⟩
  | .ok (.error e), data => ⟨.returned (.error (.stream e)), data, []⟩
  | .ok (.ok ()), data => ⟨.returned (.ok line), data, [.greeted (byteLength line)]⟩

variable [HasStandard κ]

/-- **A greeting is two calls in a row**: the second writes what the first one read, with the suffix
    behind it, on the data that the first one left. -/
theorem exec_greet (g : Greeting) (dispatch : Dispatch U κ D) (data : D) :
    (greet g).exec dispatch data =
      (dispatch (HasStandard.key .readable) "read" (.tuple []) .text () data).andThen fun
        | .error e, data => ⟨.returned (.error e), data, []⟩
        | .ok text, data =>
          (dispatch (HasStandard.key .writable) "write" (.tuple [.text]) .written
            (text ++ g.suffix, ()) data).andThen (Greeting.closing (text ++ g.suffix)) := by
  rw [greet, Routine.exec_bind, Effect.bind_run, Routine.read, Routine.exec_invoke]
  congr 1
  funext r data'
  rcases r with e | text
  · rfl
  · show ((Routine.write (text ++ g.suffix) >>= _).exec dispatch) data' = _
    rw [Routine.exec_bind, Effect.bind_run, Routine.write, Routine.exec_invoke]
    congr 1
    funext r data''
    rcases r with e | e | _ <;> rfl

theorem exec_greet_of_refused (g : Greeting) {dispatch : Dispatch U κ D} {data : D} {c o : String}
    {e : Failure}
    (h : dispatch (HasStandard.key .readable) "read" (.tuple []) .text () data =
      .rejected c o e data) :
    (greet g).exec dispatch data = .rejected c o e data := by
  rw [exec_greet, h]
  rfl

theorem exec_greet_of_read (g : Greeting) {dispatch : Dispatch U κ D} {data data' : D} {text : String}
    {es : List Event}
    (h : dispatch (HasStandard.key .readable) "read" (.tuple []) .text () data =
      ⟨.returned (.ok text), data', es⟩) :
    (greet g).exec dispatch data =
      ((dispatch (HasStandard.key .writable) "write" (.tuple [.text]) .written
        (text ++ g.suffix, ()) data').andThen (Greeting.closing (text ++ g.suffix))).after es := by
  rw [exec_greet, h]
  rfl

/-- A greeting returns the refusal of one of its calls, an error of the stream, or a line that ends
    with the suffix. -/
theorem exec_greet_returned {contracts : κ → Contract U} {x : Instance U κ D}
    {h : Standard → List (Request U κ D)} (hx : x.Reached contracts h) {depth : Nat} {g : Greeting}
    {v : Except Failure String}
    (hv : ((greet g).exec (Instance.dispatch contracts x.tables (depth + 1)) x.data).outcome =
      .returned v) :
    v = .error (.unbound "Readable" "read") ∨ v = .error (.unbound "Writable" "write") ∨
      (∃ e, v = .error (.stream e)) ∨ ∃ text, v = .ok (text ++ g.suffix) := by
  rw [exec_greet g _ x.data, Run.outcome_andThen_iff] at hv
  obtain ⟨result, hresult, hv⟩ := hv
  rcases result with e | text
  · obtain rfl : v = .error e := by simpa using hv.symm
    left
    rw [Instance.eq_unbound_of_dispatch_standard hx (s := .readable) hresult]
    rfl
  · obtain ⟨result', hresult', hv⟩ := Run.outcome_andThen_iff.1 hv
    rcases result' with e | e | _
    · obtain rfl : v = .error e := by simpa [Greeting.closing] using hv.symm
      right; left
      rw [Instance.eq_unbound_of_dispatch_standard hx (s := .writable) hresult']
      rfl
    · obtain rfl : v = .error (.stream e) := by simpa [Greeting.closing] using hv.symm
      exact Or.inr (Or.inr (Or.inl ⟨e, rfl⟩))
    · obtain rfl : v = .ok (text ++ g.suffix) := by simpa [Greeting.closing] using hv.symm
      exact Or.inr (Or.inr (Or.inr ⟨text, rfl⟩))

/-- **A greeting runs what is bound, and nothing else.**  Take any instance whose tables for the
    standard contracts were reached by any histories, whatever its other tables hold.  If nothing is
    bound to reading, the greeting is refused as that call is, and the instance is as before.
    Otherwise the routine bound last to reading runs once, on the data of the instance; it may change
    them and call on through the tables.  If nothing is bound to writing, the greeting is refused
    then, and what reading did stays.  Otherwise the routine bound last to writing runs once, on the
    data that reading left, with exactly the text read and the suffix behind it.  The greeting fails
    with the error of the stream if writing gave one, and returns the line otherwise; only then it
    reports the line, with its length in bytes.  It returns nothing else. -/
theorem greet_runs_what_is_bound (contracts : κ → Contract U) (x : Instance U κ D)
    (h : Standard → List (Request U κ D)) (hx : x.Reached contracts h) (depth : Nat) (g : Greeting) :
    let dispatch := Instance.dispatch contracts x.tables depth
    let run := Instance.perform contracts (depth + 1) (greet g) x
    let unread := Failure.unbound "Readable" "read"
    let unwritten := Failure.unbound "Writable" "write"
    (Standard.readable.lastAccepted (h .readable) = none →
      run = .rejected "Readable" "read" unread x) ∧
    (∀ b, Standard.readable.lastAccepted (h .readable) = some b →
      ∃ read : Routine U κ D String, b = ⟨.tuple [], .text, fun _ => read⟩ ∧
      ∀ text data events, read.exec dispatch x.data = ⟨.returned text, data, events⟩ →
        let line := text ++ g.suffix
        let before := .invoking "Readable" "read" :: events
        (Standard.writable.lastAccepted (h .writable) = none →
          run = (Run.rejected "Writable" "write" unwritten { x with data }).after before) ∧
        ∀ b', Standard.writable.lastAccepted (h .writable) = some b' →
          ∃ write : String × Unit → Routine U κ D (Except StreamError Unit),
            b' = ⟨.tuple [.text], .written, write⟩ ∧
          ∀ result data' events',
            (write (line, ())).exec dispatch data = ⟨.returned result, data', events'⟩ →
            let all := before ++ .invoking "Writable" "write" :: events'
            (∀ e, result = .error e →
              run = ⟨.returned (.error (.stream e)), { x with data := data' }, all⟩) ∧
            (result = .ok () → run = ⟨.returned (.ok line), { x with data := data' },
              all ++ [.greeted (byteLength line)]⟩)) ∧
    ∀ v, run.outcome = .returned v →
      v = .error unread ∨ v = .error unwritten ∨ (∃ e, v = .error (.stream e)) ∨
        ∃ text, v = .ok (text ++ g.suffix) := by
  intro dispatch run unread unwritten
  let r := (greet g).exec (Instance.dispatch contracts x.tables (depth + 1)) x.data
  have hrun : run = ⟨r.outcome, { x with data := r.state }, r.events⟩ := rfl
  refine ⟨fun hnone => ?_, fun b hb => ?_, fun v hv => exec_greet_returned hx hv⟩
  · rcases Instance.dispatch_read_cases hx depth x.data with ⟨-, hcall⟩ | ⟨read, hread, -⟩
    · rw [hrun, show r = _ from exec_greet_of_refused g hcall]
      rfl
    · cases hnone.symm.trans hread
  · rcases Instance.dispatch_read_cases hx depth x.data with ⟨hnone, -⟩ | ⟨read, hread, hcall⟩
    · cases hnone.symm.trans hb
    obtain rfl := Option.some.inj (hb.symm.trans hread)
    refine ⟨read, rfl, fun text data events hexec => ?_⟩
    intro line before
    rw [Run.invoked_of_returned hexec] at hcall
    -- from here on the data are those that reading left
    have hr : r = _ := exec_greet_of_read g hcall
    refine ⟨fun hnone => ?_, fun b' hb' => ?_⟩
    · rcases Instance.dispatch_write_cases hx depth (text ++ g.suffix) data with
        ⟨-, hcall'⟩ | ⟨write, hwrite, -⟩
      · rw [hrun, hr, hcall']
        rfl
      · cases hnone.symm.trans hwrite
    · rcases Instance.dispatch_write_cases hx depth (text ++ g.suffix) data with
        ⟨hnone, -⟩ | ⟨write, hwrite, hcall'⟩
      · cases hnone.symm.trans hb'
      obtain rfl := Option.some.inj (hb'.symm.trans hwrite)
      refine ⟨write, rfl, fun result data' events' hexec' => ?_⟩
      intro all
      rw [Run.invoked_of_returned hexec'] at hcall'
      rw [hrun, hr, hcall']
      refine ⟨?_, ?_⟩
      · rintro e rfl
        simp [Greeting.closing, Run.after, all, before]
      · rintro rfl
        simp [Greeting.closing, Run.after, all, before, line]

/-- Reading that first writes through the tables, on lines with room for two more and on lines with
    room for one: the second line is written on what the first one left, and stays when it fails. -/
theorem greet_runs_what_is_bound_nested :
    let full : StreamError := .custom .storageFull "full"
    let reading : Routine .empty Standard (List String) String := do
      let _ ← Routine.write "reading"
      return "hello"
    let writing (args : String × Unit) :
        Routine .empty Standard (List String) (Except StreamError Unit) :=
      .get fun lines => .set (lines ++ [args.1]) <| .done <|
        if lines.length < 2 then .ok () else .error full
    let h : Standard → List (Request .empty Standard (List String))
      | .readable =>
        [.bind "read" ⟨.tuple [], .text, fun _ => .panic "old"⟩,
         .bind "read" ⟨.tuple [], .text, fun _ => reading⟩,
         .bind "read" ⟨.tuple [], .unit, fun _ => .done ()⟩]
      | .writable => [.bind "write" ⟨.tuple [.text], .written, writing⟩]
    let x (lines : List String) : Instance .empty Standard (List String) :=
      ⟨lines, fun s => ((Board.start s.contract).after (h s)).table⟩
    let calls : List Event :=
      [.invoking "Readable" "read", .invoking "Writable" "write", .invoking "Writable" "write"]
    let run lines := Instance.perform Standard.contract 2 (greet { suffix := "!" }) (x lines)
    run [] = ⟨.returned (.ok "hello!"), x ["reading", "hello!"], calls ++ [.greeted 6]⟩ ∧
      run ["old"] =
        ⟨.returned (.error (.stream full)), x ["old", "reading", "hello!"], calls⟩ := by
  intro full reading writing h x calls run
  have hx (lines) : (x lines).Reached Standard.contract h :=
    ⟨fun _ => rfl, fun s => by cases s <;> decide, fun _ => rfl⟩
  have hgreet lines := greet_runs_what_is_bound _ _ h (hx lines) 1 { suffix := "!" }
  refine ⟨?_, ?_⟩
  · obtain ⟨read, hread, hwrites⟩ := (hgreet []).2.1 ⟨.tuple [], .text, fun _ => reading⟩ rfl
    obtain rfl : reading = read := by simpa [funext_iff] using hread
    obtain ⟨write, hwrite, hends⟩ := (hwrites _ ["reading"] [.invoking "Writable" "write"] rfl).2
      ⟨.tuple [.text], .written, writing⟩ rfl
    obtain rfl : writing = write := by simpa using hwrite
    exact (hends (.ok ()) _ [] rfl).2 rfl
  · obtain ⟨read, hread, hwrites⟩ := (hgreet ["old"]).2.1 ⟨.tuple [], .text, fun _ => reading⟩ rfl
    obtain rfl : reading = read := by simpa [funext_iff] using hread
    obtain ⟨write, hwrite, hends⟩ :=
      (hwrites _ ["old", "reading"] [.invoking "Writable" "write"] rfl).2
        ⟨.tuple [.text], .written, writing⟩ rfl
    obtain rfl : writing = write := by simpa using hwrite
    exact (hends (.error full) _ [] rfl).1 full rfl

end

end Switchboard
