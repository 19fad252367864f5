/-
  The names of types decide nothing.

  A signature carries the names of its types beside the types themselves, and these names travel on
  into the text of a mismatch.  Nothing is decided by them.  Two contracts that sign the same names
  with the same types, whatever the types are called, give the same responses and fill the same
  slots; only the text that a mismatch expected can tell them apart.  The same holds of calls that
  routines make in turn, unless a routine reads that text itself.  And two types are two types even
  if they have one name.

  * `withoutExpected`: what is left of an answer without the text that a mismatch expected;
  * `Contract.SameTypes`, `Request.SameTypes`: the same but for the names of types;
  * `check_alike`, `install_alike`, `lookup_alike`: the checks under such contracts;
  * `Board.step_alike`, `Board.run_alike`: requests and histories;
  * `Routine.Blind`, `exec_alike`, `dispatch_alike`, `invoke_alike`: calls within calls, and
    `Twins.invoke_not_alike`: why the routines have to be blind;
  * `bind_other_types`, `call_other_types`: the use of other types than the signed ones;
  * `type_names_decide_nothing`: what histories show of the names, and what the types decide.
-/
import Switchboard.Proofs.Table.History
import Switchboard.Proofs.Table.Refusals

namespace Switchboard

variable {U : Universe}

/-! ## The text that was expected -/

/-- The failure without the text that a mismatch expected. -/
def Failure.withoutExpected : Failure → Failure
  | mismatch c o _ found => mismatch c o "" found
  | e => e

/-- The event without the text that a mismatch expected. -/
def Event.withoutExpected : Event → Event
  | rejected c o e => rejected c o e.withoutExpected
  | e => e

/-- What a check or a call gives, without the text that a mismatch expected. -/
def withoutExpected {α : Type} : Except Failure α → Except Failure α
  | .error e => .error e.withoutExpected
  | .ok a => .ok a

theorem withoutExpected_eq_iff {α : Type} {r r' : Except Failure α} :
    withoutExpected r = withoutExpected r' ↔
      (∃ a, r = .ok a ∧ r' = .ok a) ∨
      ∃ e e', r = .error e ∧ r' = .error e' ∧ e.withoutExpected = e'.withoutExpected := by
  rcases r with e | a <;> rcases r' with e' | a' <;> simp [withoutExpected, eq_comm]

/-- The response without the text expected, if it is a refusal; any other response as it is. -/
def Response.withoutExpected {D : Type} (a : Response U D) : Response U D :=
  match a.outcome with
  | .returned (.error e) =>
    { a with
      outcome := .returned (.error e.withoutExpected)
      events := a.events.map Event.withoutExpected }
  | _ => a

/-! ## Contracts with the same types -/

/-- The same names are signed, with the same types, which may be called by different names. -/
def SameSignatures (signature signature' : String → Option (Signature U)) : Prop :=
  ∀ o, Option.Rel (fun s s' => s.agrees s') (signature o) (signature' o)

theorem SameSignatures.refl (signature : String → Option (Signature U)) :
    SameSignatures signature signature := by
  intro o
  cases signature o with
  | none => exact .none
  | some s => exact .some (Signature.agrees_iff.2 ⟨rfl, rfl⟩)

namespace Contract

/-- The two contracts differ at most in the names of the types that they sign with. -/
structure SameTypes (c c' : Contract U) : Prop where
  name : c.name = c'.name
  operations : c.operations = c'.operations
  signature : SameSignatures c.signature c'.signature

namespace SameTypes

variable {c c' : Contract U} {κ D : Type}

theorem resolve (h : c.SameTypes c') (o : String) : c.resolve o = c'.resolve o := by
  simp only [Contract.resolve, position?, h.operations, h.name]

/-- The comparison passes under both, or fails under both but for the text expected. -/
theorem check_alike (h : c.SameTypes c') (o : String) (A R : Ty U) :
    withoutExpected (c.check o A R) = withoutExpected (c'.check o A R) := by
  have hsig : Option.Rel (fun s s' => s.agrees s') (c.signature o) (c'.signature o) := h.signature o
  unfold check
  generalize c.signature o = sig, c'.signature o = sig' at hsig
  cases hsig with
  | none => simp only [h.name]
  | @some s s' hagree =>
    obtain ⟨hparams, hret⟩ := Signature.agrees_iff.1 hagree
    have htypes : s.agrees (.of A R) = s'.agrees (.of A R) := by
      simp only [Signature.agrees, hparams, hret]
    simp only [htypes]
    split
    · rfl
    · -- the names of the types go into the text expected and nowhere else
      simp only [mismatch, h.name]
      rfl

theorem install_alike (h : c.SameTypes c') (t : Table U κ D) (o : String) (b : Binding U κ D) :
    withoutExpected (t.install c o b) = withoutExpected (t.install c' o b) := by
  unfold Table.install
  rw [← h.resolve o]
  rcases c.resolve o with e | i
  · rfl
  · rcases withoutExpected_eq_iff.1 (h.check_alike o b.params b.ret) with
      ⟨_, hc, hc'⟩ | ⟨e, e', hc, hc', he⟩
    · simp only [hc, hc']
    · simp only [hc, hc']
      exact congrArg Except.error he

theorem lookup_alike (h : c.SameTypes c') (t : Table U κ D) (o : String) (A R : Ty U) :
    withoutExpected (t.lookup c o A R) = withoutExpected (t.lookup c' o A R) := by
  unfold Table.lookup
  rw [← h.resolve o, ← h.name]
  rcases c.resolve o with e | i
  · rfl
  rcases hslot : t.slot? i with _ | b
  · simp only [hslot]
  rcases withoutExpected_eq_iff.1 (h.check_alike o A R) with ⟨_, hc, hc'⟩ | ⟨e, e', hc, hc', he⟩
  · simp only [hslot, hc, hc', mismatch, h.name]
  · simp only [hslot, hc, hc']
    exact congrArg Except.error he

end SameTypes

end Contract

/-! ## Histories -/

/-- The requests are the same, or change signatures to the same up to the names of types. -/
inductive Request.SameTypes {κ D : Type} : Request U κ D → Request U κ D → Prop
  | same (r : Request U κ D) : SameTypes r r
  | declare {signature signature' : String → Option (Signature U)}
      (h : SameSignatures signature signature') : SameTypes (.declare signature) (.declare signature')

namespace Board

variable {κ D : Type} {s s' : Board U κ D}

/-- The two boards have the same table, and contracts with the same types. -/
structure Alike (s s' : Board U κ D) : Prop where
  contract : s.contract.SameTypes s'.contract
  table : s.table = s'.table

/-- **A request gets the same response** but for the text expected, and leaves the boards alike. -/
theorem step_alike (h : s.Alike s') {r r' : Request U κ D} (hr : r.SameTypes r') :
    (s.step r).1.withoutExpected = (s'.step r').1.withoutExpected ∧
      (s.step r).2.Alike (s'.step r').2 := by
  obtain ⟨c, t⟩ := s
  obtain ⟨c', t'⟩ := s'
  have hc : c.SameTypes c' := h.contract
  obtain rfl : t = t' := h.table
  cases hr with
  | declare hs => exact ⟨rfl, ⟨hc.name, hc.operations, hs⟩, rfl⟩
  | same =>
    cases r with
    | bind o b =>
      rcases withoutExpected_eq_iff.1 (hc.install_alike t o b) with
        ⟨⟨t', replaced⟩, hi, hi'⟩ | ⟨e, e', hi, hi', he⟩
      · simp only [step, Table.bind, hi, hi', hc.name, true_and]
        exact ⟨hc, rfl⟩
      · simp only [step, Table.bind, hi, hi']
        refine ⟨?_, hc, rfl⟩
        simp only [Response.withoutExpected, Outcome.map, Except.map, he]
    | call o A R args dispatch x =>
      refine ⟨?_, hc, rfl⟩
      rcases withoutExpected_eq_iff.1 (hc.lookup_alike t o A R) with
        ⟨f, hl, hl'⟩ | ⟨e, e', hl, hl', he⟩
      · simp only [step, Table.call, hl, hl', hc.name]
      · simp only [step, Table.call, hl, hl', hc.name, Effect.emit_bind, Effect.pure_run, Run.after]
        simp only [Response.withoutExpected, Outcome.map, Except.map, List.append_nil,
          List.map_cons, List.map_nil, Event.withoutExpected, he]
    | isBound o =>
      refine ⟨?_, hc, rfl⟩
      simp only [step, Table.isBound, hc.resolve]
    | declare signature => exact ⟨rfl, ⟨hc.name, hc.operations, .refl signature⟩, rfl⟩

/-- **Histories are answered alike**, and leave the boards alike. -/
theorem run_alike (h : s.Alike s') {history : List (Request U κ D × Request U κ D)}
    (hh : ∀ p ∈ history, p.1.SameTypes p.2) :
    (s.log (history.map (·.1))).map (·.2.withoutExpected) =
        (s'.log (history.map (·.2))).map (·.2.withoutExpected) ∧
      (s.after (history.map (·.1))).Alike (s'.after (history.map (·.2))) := by
  induction history generalizing s s' with
  | nil => exact ⟨rfl, h⟩
  | cons p rest ih =>
    obtain ⟨hp, hrest⟩ := List.forall_mem_cons.1 hh
    obtain ⟨hresponse, hnext⟩ := step_alike h hp
    obtain ⟨hlog, hend⟩ := ih hnext hrest
    refine ⟨?_, hend⟩
    simp only [List.map_cons, log, hresponse, hlog]

end Board

/-! ## Calls within calls -/

/-- The two runs leave the same state and report the same events but for the texts expected, and
    what they return has the same image under `f`. -/
structure Run.Alike {σ α β : Type} (f : α → β) (r r' : Run σ α) : Prop where
  outcome : r.outcome.map f = r'.outcome.map f
  state : r.state = r'.state
  events : r.events.map Event.withoutExpected = r'.events.map Event.withoutExpected

namespace Run.Alike

variable {σ α α' β β' : Type} {f : α → β} {g : α' → β'} {r r' : Run σ α}

theorem refl (f : α → β) (r : Run σ α) : Alike f r r := ⟨rfl, rfl, rfl⟩

theorem after {es es' : List Event}
    (hes : es.map Event.withoutExpected = es'.map Event.withoutExpected) (h : Alike f r r') :
    Alike f (r.after es) (r'.after es') where
  outcome := h.outcome
  state := h.state
  events := by simp only [Run.after, List.map_append, hes, h.events]

/-- Runs that are alike, continued alike on what they return, are alike. -/
theorem andThen {k k' : α → σ → Run σ α'} (h : Alike f r r')
    (hk : ∀ a a' s, f a = f a' → Alike g (k a s) (k' a' s)) :
    Alike g (r.andThen k) (r'.andThen k') := by
  obtain ⟨o, s, es⟩ := r
  obtain ⟨o', s', es'⟩ := r'
  obtain ⟨ho, rfl, hes⟩ := h
  cases o with
  | returned a =>
    cases o' with
    | returned a' =>
      have ha : f a = f a' := by simpa [Outcome.map] using ho
      exact (hk a a' s ha).after hes
    | panicked | exhausted => cases ho
  | panicked m =>
    cases o' with
    | panicked m' =>
      cases ho
      exact ⟨rfl, rfl, hes⟩
    | returned | exhausted => cases ho
  | exhausted =>
    cases o' with
    | exhausted => exact ⟨rfl, rfl, hes⟩
    | returned | panicked => cases ho

end Run.Alike

section
variable {κ D ρ : Type}

/-- The routine goes on in the same way after a mismatch, whatever text was expected. -/
def Routine.Blind : Routine U κ D ρ → Prop
  | done _ | panic _ => True
  | get next => ∀ d, (next d).Blind
  | set _ next | emit _ next => next.Blind
  | call _ _ _ _ _ next =>
    (∀ r r', withoutExpected r = withoutExpected r' → next r = next r') ∧ ∀ r, (next r).Blind

/-- All routines in the table are blind to the texts expected. -/
def Table.Blind (t : Table U κ D) : Prop :=
  ∀ i b, t.slot? i = some b → ∀ args, (b.body args).Blind

/-- The two ways to carry out calls agree but for the texts expected. -/
def Dispatch.Alike (dispatch dispatch' : Dispatch U κ D) : Prop :=
  ∀ k o A R args x, Run.Alike withoutExpected (dispatch k o A R args x) (dispatch' k o A R args x)

/-- **A blind routine runs alike** if its calls are carried out alike. -/
theorem Routine.exec_alike {dispatch dispatch' : Dispatch U κ D}
    (hd : Dispatch.Alike dispatch dispatch') {x : Routine U κ D ρ} (hx : x.Blind) (d : D) :
    Run.Alike id (x.exec dispatch d) (x.exec dispatch' d) := by
  induction x generalizing d with
  | done r => exact .refl id _
  | panic m => exact .refl id _
  | get next ih => exact ih d (hx d) d
  | set d' next ih => exact ih hx d'
  | emit e next ih => exact (ih hx d).after rfl
  | call k o A R args next ih =>
    refine (hd k o A R args d).andThen fun r r' d' hr => ?_
    -- the answers may differ in a text expected, which the routine does not look at
    rw [hx.1 r r' hr]
    exact ih r' (hx.2 r') d'

theorem Table.call_alike {c c' : Contract U} (hc : c.SameTypes c') {t : Table U κ D} (ht : t.Blind)
    {dispatch dispatch' : Dispatch U κ D} (hd : Dispatch.Alike dispatch dispatch') (o : String)
    (A R : Ty U) (args : A.Val) (x : D) :
    Run.Alike withoutExpected (t.call c dispatch o A R args x) (t.call c' dispatch' o A R args x) := by
  unfold call
  rcases withoutExpected_eq_iff.1 (hc.lookup_alike t o A R) with ⟨f, hl, hl'⟩ | ⟨e, e', hl, hl', he⟩
  · -- the same routine, found in a table of blind ones
    obtain ⟨i, -, hslot, -⟩ := lookup_eq_ok_iff.1 hl
    have hrun := Routine.exec_alike hd (ht i _ hslot args) x
    simp only [hl, hl', hc.name, Effect.emit_bind]
    refine .after rfl (hrun.andThen fun v v' d hv => ?_)
    rw [show v = v' from hv]
    exact .refl _ _
  · simp only [hl, hl', hc.name, Effect.emit_bind]
    refine .after ?_ ⟨?_, rfl, rfl⟩
    · simp only [List.map_cons, List.map_nil, Event.withoutExpected, he]
    · simp only [Effect.pure_run, Outcome.map, withoutExpected, he]

namespace Instance

variable {contracts contracts' : κ → Contract U}

/-- **Calls through tables run alike**, however deeply they are nested. -/
theorem dispatch_alike (hc : ∀ k, (contracts k).SameTypes (contracts' k)) {tables : κ → Table U κ D}
    (ht : ∀ k, (tables k).Blind) (depth : Nat) :
    Dispatch.Alike (dispatch contracts tables depth) (dispatch contracts' tables depth) := by
  induction depth with
  | zero => exact fun _ _ _ _ _ _ => .refl _ _
  | succ depth ih =>
    exact fun k o A R args x => Table.call_alike (hc k) (ht k) ih o A R args x

/-- **Calls of instances run alike**, with all the calls that their routines make in turn, if no
    routine looks at the texts expected. -/
theorem invoke_alike (hc : ∀ k, (contracts k).SameTypes (contracts' k)) {x : Instance U κ D}
    (hx : ∀ k, (x.tables k).Blind) (depth : Nat) (k : κ) (o : String) (A R : Ty U)
    (args : A.Val) :
    Run.Alike withoutExpected (invoke contracts depth k o A R args x)
      (invoke contracts' depth k o A R args x) := by
  have hcall := Table.call_alike (hc k) (hx k) (dispatch_alike hc hx depth) o A R args x.data
  rw [invoke_eq_callThrough, invoke_eq_callThrough]
  refine ⟨hcall.outcome, ?_, hcall.events⟩
  simp only [callThrough, onData, Effect.zoom, hcall.state]

end Instance

end

namespace Twins

/-- Two types with one name. -/
def twin (n : Nat) : Ty Bench.types := .base (.nominal n "Twin")

/-- A contract that signs the first of them. -/
def contract : Contract Bench.types :=
  .ofDeclarations "Duo" [⟨"give", [], twin 0⟩, ⟨"attempt", [], .base .bool⟩]

/-- The same contract, but that it calls the type by another name. -/
def renamed : Contract Bench.types :=
  contract.redeclare "give" (some ⟨.unit, twin 0, "()", "another::Twin"⟩)

theorem sameTypes : contract.SameTypes renamed := by
  refine ⟨rfl, rfl, fun o => ?_⟩
  by_cases ho : o = "give"
  · rw [ho]
    exact .some (by decide)
  · rw [renamed, contract.redeclare_signature_other _ ho]
    exact SameSignatures.refl contract.signature o

def give (n : Nat) : Binding Bench.types Unit Nat := ⟨.unit, twin n, fun _ => .done ()⟩

/-- Tries to be given the second type, and judges by what it gets. -/
def attempt (judge : Except Failure Unit → Bool) : Binding Bench.types Unit Nat :=
  ⟨.unit, .base .bool, fun _ => .call () "give" .unit (twin 1) () fun r => .done (judge r)⟩

/-- An instance whose routine `attempt` judges so. -/
def judging (judge : Except Failure Unit → Bool) : Instance Bench.types Unit Nat :=
  ⟨7, fun _ => ⟨[some (give 0), some (attempt judge)]⟩⟩

/-- A routine that only asks whether it was given something goes on alike. -/
theorem invoke_alike_isOk (depth : Nat) :
    let x := judging Except.isOk
    Run.Alike withoutExpected
      (Instance.invoke (fun _ => contract) depth () "attempt" .unit (.base .bool) () x)
      (Instance.invoke (fun _ => renamed) depth () "attempt" .unit (.base .bool) () x) := by
  intro x
  have hblind : ∀ k, (x.tables k).Blind := by
    intro k i b hb args
    match i with
    | 0 =>
      cases hb
      trivial
    | 1 =>
      cases hb
      refine ⟨fun r r' hr => ?_, fun r => trivial⟩
      rcases withoutExpected_eq_iff.1 hr with ⟨a, rfl, rfl⟩ | ⟨e, e', rfl, rfl, -⟩ <;> rfl
    | i + 2 => cases hb
  exact Instance.invoke_alike (fun _ => sameTypes) hblind depth () "attempt" .unit (.base .bool) ()

/-- One that reads the text expected tells the two contracts apart. -/
theorem invoke_not_alike :
    let x := judging fun
      | .error (.mismatch _ _ expected _) => expected == "fn() -> Twin"
      | _ => false
    ¬ Run.Alike withoutExpected
      (Instance.invoke (fun _ => contract) 1 () "attempt" .unit (.base .bool) () x)
      (Instance.invoke (fun _ => renamed) 1 () "attempt" .unit (.base .bool) () x) := by
  intro x h
  have heq : Outcome.returned (.ok true : Except Failure Bool) = .returned (.ok false) := h.outcome
  cases heq

end Twins

/-! ## Other types -/

namespace Table

variable {κ D : Type} {c : Contract U} {t : Table U κ D} {o : String} {A R : Ty U}
  {sig : Signature U}

/-- A binding with other types than the signed ones is refused and changes nothing. -/
theorem bind_other_types (hs : c.signature o = some sig) (hne : ¬ (sig.params = A ∧ sig.ret = R))
    (f : A.Val → Routine U κ D R.Val) (t : Table U κ D) :
    ∃ e, bind c o ⟨A, R, f⟩ t = ⟨.returned (.error e), t, []⟩ ∧
      (o ∈ c.operations → e = .mismatch c.name o sig.text (Signature.of A R).text) := by
  rcases bind_cases c o ⟨A, R, f⟩ t with ⟨i, -, ⟨sig', hs', htypes⟩, -⟩ | ⟨-, e, h⟩
  · cases hs.symm.trans hs'
    exact absurd htypes hne
  · refine ⟨e, h, fun ho => ?_⟩
    have hmismatch := bind_eq_error_iff (t := t) (b := ⟨A, R, f⟩).2 (.types ho hs hne)
    rw [h] at hmismatch
    cases hmismatch
    rfl

/-- A call with other types than the signed ones runs nothing, whatever is bound. -/
theorem call_other_types (hs : c.signature o = some sig) (hne : ¬ (sig.params = A ∧ sig.ret = R))
    (t : Table U κ D) (dispatch : Dispatch U κ D) (args : A.Val) (x : D) :
    ∃ e, t.call c dispatch o A R args x = .rejected c.name o e x ∧
      ∀ b, t.Holds c o b → e = .mismatch c.name o sig.text (Signature.of A R).text := by
  rcases call_cases c t dispatch o A R args x with ⟨i, f, -, -, ⟨sig', hs', htypes⟩, -⟩ | ⟨e, he, h⟩
  · cases hs.symm.trans hs'
    exact absurd htypes hne
  · refine ⟨e, h, fun b ⟨i, hi, hb⟩ => ?_⟩
    have hl : t.lookup c o A R =
        .error (.mismatch c.name o sig.text (Signature.of A R).text) := by
      simp only [lookup, Contract.resolve_eq_ok_iff.2 hi, slot?_eq_some_iff.2 hb,
        Contract.check_eq_error_iff.2 (Or.inr ⟨sig, hs, hne, rfl⟩)]
    exact Except.error.inj (he.symm.trans hl)

end Table

/-- What two boards show over two histories, if they differ in the names of types only. -/
structure Board.NamesDecideNothing {κ D : Type} (s s' : Board U κ D)
    (history : List (Request U κ D × Request U κ D)) : Prop where
  /-- Request by request they give the same response, but for the text that a mismatch expected. -/
  responses : (s.log (history.map (·.1))).map (·.2.withoutExpected) =
    (s'.log (history.map (·.2))).map (·.2.withoutExpected)
  /-- They end in the same table. -/
  table : (s.after (history.map (·.1))).table = (s'.after (history.map (·.2))).table
  /-- A binding with other types than the signed ones is refused, and by the texts of the types if
      nothing else stands against it. -/
  bind : let e := s.after (history.map (·.1))
    ∀ o sig A R, e.contract.signature o = some sig → ¬ (sig.params = A ∧ sig.ret = R) →
      ∀ f, ∃ failure,
        Table.bind e.contract o ⟨A, R, f⟩ e.table = ⟨.returned (.error failure), e.table, []⟩ ∧
        (o ∈ s.contract.operations →
          failure = .mismatch s.contract.name o sig.text (Signature.of A R).text)
  /-- So is a call, and it runs nothing. -/
  call : let e := s.after (history.map (·.1))
    ∀ o sig A R, e.contract.signature o = some sig → ¬ (sig.params = A ∧ sig.ret = R) →
      ∀ dispatch args x, ∃ failure,
        e.table.call e.contract dispatch o A R args x = .rejected s.contract.name o failure x ∧
        ∀ b, e.table.Holds e.contract o b →
          failure = .mismatch s.contract.name o sig.text (Signature.of A R).text

/-- **The names of types decide nothing.**  Take two contracts that differ at most in the names of
    the types that they sign with, any table, and two histories that differ at most in the same way
    where signatures change.  Request by request the two boards give the same response, but for the
    text that a mismatch expected, and they end in the same table.  What counts is the types: at the
    end of the history, a binding or a call with other types than the signed ones is refused, and if
    nothing else stands against it, it is refused by a mismatch of the two texts, which may be
    equal. -/
theorem type_names_decide_nothing {κ D : Type} {c c' : Contract U} (hc : c.SameTypes c')
    (t : Table U κ D) (history : List (Request U κ D × Request U κ D))
    (hh : ∀ p ∈ history, p.1.SameTypes p.2) :
    Board.NamesDecideNothing ⟨c, t⟩ ⟨c', t⟩ history := by
  have halike : (⟨c, t⟩ : Board U κ D).Alike ⟨c', t⟩ := ⟨hc, rfl⟩
  obtain ⟨hlog, hend⟩ := Board.run_alike halike hh
  refine ⟨hlog, hend.table, fun o sig A R hs hne f => ?_, fun o sig A R hs hne dispatch args x => ?_⟩
  · have hbind := Table.bind_other_types hs hne f
      ((⟨c, t⟩ : Board U κ D).after (history.map (·.1))).table
    rwa [Board.after_name, Board.after_operations] at hbind
  · have hcall := Table.call_other_types hs hne
      ((⟨c, t⟩ : Board U κ D).after (history.map (·.1))).table dispatch args x
    rwa [Board.after_name] at hcall

/-- It changes nothing to call the first of two types by another name; the other one is refused
    although the texts are equal. -/
theorem type_names_decide_nothing_twins :
    let h : List (Request Bench.types Unit Nat) :=
      [.bind "give" (Twins.give 1), .bind "give" (Twins.give 0)]
    let s := (Board.start Twins.contract).after h
    let s' := (⟨Twins.renamed, .empty Twins.contract⟩ : Board Bench.types Unit Nat).after h
    let mismatch : Failure := .mismatch "Duo" "give" "fn() -> Twin" "fn() -> Twin"
    Twins.contract.SameTypes Twins.renamed ∧
      s.table = s'.table ∧ s.table.slot? 0 = some (Twins.give 0) ∧
      Table.bind Twins.contract "give" (Twins.give 1) s.table =
        ⟨.returned (.error mismatch), s.table, []⟩ ∧
      ∀ dispatch x, s.table.call Twins.contract dispatch "give" .unit (Twins.twin 1) () x =
        .rejected "Duo" "give" mismatch x := by
  intro h s s' mismatch
  have hnames := type_names_decide_nothing Twins.sameTypes (.empty Twins.contract)
    (h.map fun r => (r, r)) (by
      intro p hp
      obtain ⟨r, -, rfl⟩ := List.mem_map.1 hp
      exact .same r)
  refine ⟨Twins.sameTypes, hnames.table, rfl, ?_, fun dispatch x => ?_⟩
  · obtain ⟨e, hbind, he⟩ := hnames.bind "give" _ .unit (Twins.twin 1) rfl (by decide)
      fun _ => .done ()
    cases he (by decide)
    exact hbind
  · obtain ⟨e, hcall, he⟩ := hnames.call "give" _ .unit (Twins.twin 1) rfl (by decide) dispatch () x
    cases he (Twins.give 0) ⟨0, rfl, rfl⟩
    exact hcall

end Switchboard
