/-
  The events of a table are a log of it.

  A table reports each accepted binding and each call, and nothing else.  A call reports before its
  routine runs, so that what follows are the events of the routine, among them those of the calls
  that the routine makes in turn.  From the events that report the first binding of a name one can
  tell which slots are filled: each filled slot has exactly one of them.

  * `Table.Reports`: what a call reports; `call_reports`, `dispatch_reports`: every call does so,
    be it made from outside or by a routine;
  * `Board.own`, `Board.reported`: the events that are the table's own;
  * `boundOperations_step_perm`, `boundOperations_after_perm`: the names told as bound are those
    reported as bound for the first time;
  * `exec_reportsNoBinding`, `dispatch_reportsNoBinding`: calls report no binding, however deeply
    they are nested;
  * `EventsLog`, `events_log_table`: what the events tell about a table after any history.
-/
import Switchboard.Proofs.Table.Completion

namespace Switchboard

variable {U : Universe}

/-! ## Kinds of events -/

namespace Event

/-- The operation that an event reports as bound for the first time. -/
def firstBound? : Event → Option String
  | bound _ o false => some o
  | _ => none

/-- Whether an event reports a binding. -/
def isBinding : Event → Bool
  | bound _ _ _ => true
  | _ => false

theorem firstBound?_eq_none {e : Event} (he : ¬ e.isBinding) : e.firstBound? = none := by
  cases e with
  | bound c o replaced => exact absurd rfl he
  | _ => rfl

end Event

/-! ## Calls -/

namespace Table

variable {κ D : Type}

/-- What a call reports.  If it is resolved, the event that announces it comes first, and the events
    of the routine follow.  If it is refused, the only event tells the failure that is returned. -/
def Reports (c : Contract U) (t : Table U κ D) (dispatch : Dispatch U κ D) (o : String)
    (A R : Ty U) (args : A.Val) (x : D) (r : Run D (Except Failure R.Val)) : Prop :=
  (∃ f, t.lookup c o A R = .ok f ∧
    let routine := (f args).exec dispatch x
    r.outcome = routine.outcome.map .ok ∧ r.events = .invoking c.name o :: routine.events) ∨
  (∃ e, t.lookup c o A R = .error e ∧
    r.outcome = .returned (.error e) ∧ r.events = [.rejected c.name o e])

theorem call_reports (c : Contract U) (t : Table U κ D) (dispatch : Dispatch U κ D) (o : String)
    (A R : Ty U) (args : A.Val) (x : D) :
    t.Reports c dispatch o A R args x (t.call c dispatch o A R args x) := by
  rcases call_cases c t dispatch o A R args x with ⟨i, f, hi, hf, hs, h⟩ | ⟨e, he, h⟩
  · refine Or.inl ⟨f, lookup_eq_ok_iff.2 ⟨i, hi, hf, Contract.check_iff_signs.2 hs⟩, ?_⟩
    rw [h]
    exact ⟨rfl, rfl⟩
  · refine Or.inr ⟨e, he, ?_⟩
    rw [h]
    exact ⟨rfl, rfl⟩

end Table

/-- A call that a routine makes reports as one from outside does. -/
theorem Instance.dispatch_reports {κ D : Type} (contracts : κ → Contract U)
    (tables : κ → Table U κ D) (depth : Nat) (k : κ) (o : String) (A R : Ty U) (args : A.Val) (x : D) :
    (tables k).Reports (contracts k) (dispatch contracts tables depth) o A R args x
      (dispatch contracts tables (depth + 1) k o A R args x) :=
  Table.call_reports ..

/-! ## Routines that report no binding -/

section
variable {σ α β : Type}

/-- The events of a run that is continued are those of the run and of the continuation. -/
theorem Run.mem_events_andThen {r : Run σ α} {f : α → σ → Run σ β} {e : Event}
    (he : e ∈ (r.andThen f).events) :
    e ∈ r.events ∨ ∃ a, e ∈ (f a r.state).events := by
  rcases r with ⟨outcome, s, es⟩
  cases outcome with
  | returned a =>
    rcases List.mem_append.1 he with he | he
    · exact Or.inl he
    · exact Or.inr ⟨a, he⟩
  | panicked m => exact Or.inl he
  | exhausted => exact Or.inl he

end

namespace Routine

variable {κ D ρ : Type}

/-- The routine reports no binding of its own accord. -/
def ReportsNoBinding : Routine U κ D ρ → Prop
  | done _ | panic _ => True
  | get next => ∀ d, (next d).ReportsNoBinding
  | set _ next => next.ReportsNoBinding
  | emit e next => ¬ e.isBinding ∧ next.ReportsNoBinding
  | call _ _ _ _ _ next => ∀ r, (next r).ReportsNoBinding

end Routine

/-- Calls that are carried out so report no binding. -/
def Dispatch.ReportsNoBinding {κ D : Type} (dispatch : Dispatch U κ D) : Prop :=
  ∀ k o A R args x, ∀ e ∈ (dispatch k o A R args x).events, ¬ e.isBinding

/-- No routine in the table reports a binding. -/
def Table.ReportsNoBinding {κ D : Type} (t : Table U κ D) : Prop :=
  ∀ i b, t.slot? i = some b → ∀ args, (b.body args).ReportsNoBinding

section
variable {κ D ρ : Type}

/-- A routine that reports no binding, with calls that report none, has no such event. -/
theorem Routine.exec_reportsNoBinding {dispatch : Dispatch U κ D}
    (hd : Dispatch.ReportsNoBinding dispatch) {r : Routine U κ D ρ} (hr : r.ReportsNoBinding)
    (x : D) :
    ∀ e ∈ (r.exec dispatch x).events, ¬ e.isBinding := by
  induction r generalizing x with
  | done v => exact fun e he => nomatch he
  | panic m => exact fun e he => nomatch he
  | get next ih => exact ih x (hr x) x
  | set d next ih => exact ih hr d
  | emit e next ih =>
    intro e' he'
    rcases List.mem_cons.1 he' with rfl | he'
    · exact hr.1
    · exact ih hr.2 x e' he'
  | call k o A R args next ih =>
    intro e he
    rcases Run.mem_events_andThen he with he | ⟨v, he⟩
    · exact hd k o A R args x e he
    · exact ih v (hr v) _ e he

/-- A call through a table of such routines reports no binding. -/
theorem Table.call_reportsNoBinding {t : Table U κ D} (ht : t.ReportsNoBinding)
    {dispatch : Dispatch U κ D} (hd : Dispatch.ReportsNoBinding dispatch) (c : Contract U)
    (o : String) (A R : Ty U) (args : A.Val) (x : D) :
    ∀ e ∈ (t.call c dispatch o A R args x).events, ¬ e.isBinding := by
  intro e he
  rcases call_cases c t dispatch o A R args x with ⟨i, f, -, hf, -, h⟩ | ⟨e', -, h⟩
  · rw [h] at he
    rcases List.mem_cons.1 he with rfl | he
    · simp [Event.isBinding]
    · exact Routine.exec_reportsNoBinding hd (ht i _ hf args) x e he
  · rw [h] at he
    obtain rfl := List.mem_singleton.1 he
    simp [Event.isBinding]

/-- **Calls report no binding, however deeply they are nested**, if the routines in the tables
    report none. -/
theorem Instance.dispatch_reportsNoBinding (contracts : κ → Contract U) {tables : κ → Table U κ D}
    (ht : ∀ k, (tables k).ReportsNoBinding) (depth : Nat) :
    Dispatch.ReportsNoBinding (dispatch contracts tables depth) := by
  induction depth with
  | zero => exact fun k o A R args x e he => nomatch he
  | succ depth ih =>
    exact fun k o A R args x => Table.call_reportsNoBinding (ht k) ih (contracts k) o A R args x

end

/-! ## Names told and names reported -/

namespace Table

variable {κ D : Type} {c : Contract U} {t : Table U κ D} {o : String} {i : Nat}

/-- A binding makes its own name told as bound, besides those that were told before. -/
theorem mem_boundOperations_set (hi : c.position? o = some i) (hlt : i < t.slots.length)
    (b : Binding U κ D) {o' : String} :
    o' ∈ (⟨t.slots.set i (some b)⟩ : Table U κ D).boundOperations c ↔
      o' ∈ t.boundOperations c ∨ o' = o := by
  have hname := (Contract.position?_eq_some_iff.1 hi).1
  rw [mem_boundOperations, mem_boundOperations]
  constructor
  · rintro ⟨j, hj, hsome⟩
    obtain ⟨b', hb'⟩ := Option.isSome_iff_exists.1 hsome
    rcases slot?_set_cases hb' with ⟨rfl, -⟩ | hb'
    · exact Or.inr (Option.some.inj (hj.symm.trans hname))
    · exact Or.inl ⟨j, hj, by rw [hb']; rfl⟩
  · rintro (⟨j, hj, hsome⟩ | rfl)
    · exact ⟨j, hj, (t.grows_set i b).2 j hsome⟩
    · exact ⟨i, hname, by rw [slot?_set_self hlt]; rfl⟩

/-- The names told after a binding are those told before, and the name of the binding if its slot
    was empty. -/
theorem boundOperations_set_perm (ht : t.AtFirst c) (hi : c.position? o = some i)
    (hlt : i < t.slots.length) (b : Binding U κ D) :
    ((⟨t.slots.set i (some b)⟩ : Table U κ D).boundOperations c).Perm
      (t.boundOperations c ++ if (t.slot? i).isSome then [] else [o]) := by
  have hname := (Contract.position?_eq_some_iff.1 hi).1
  have hnd := boundOperations_nodup (ht.set hi b)
  by_cases hfilled : (t.slot? i).isSome
  · rw [if_pos hfilled, List.append_nil, List.perm_ext_iff_of_nodup hnd (boundOperations_nodup ht)]
    intro o'
    rw [mem_boundOperations_set hi hlt]
    refine ⟨fun h => h.elim id ?_, Or.inl⟩
    rintro rfl
    exact mem_boundOperations.2 ⟨i, hname, hfilled⟩
  · -- a name told before has another position, since its slot was filled
    have hnew : o ∉ t.boundOperations c := by
      intro hmem
      obtain ⟨j, hj, hsome⟩ := mem_boundOperations.1 hmem
      obtain rfl : i = j := Option.some.inj (hi.symm.trans (ht.position? hj hsome))
      exact hfilled hsome
    have hnd' : (t.boundOperations c ++ [o]).Nodup :=
      List.nodup_append.2 ⟨boundOperations_nodup ht, by simp, by
        rintro o' ho' o'' ho'' rfl
        obtain rfl := List.mem_singleton.1 ho''
        exact hnew ho'⟩
    rw [if_neg hfilled, List.perm_ext_iff_of_nodup hnd hnd']
    intro o'
    rw [mem_boundOperations_set hi hlt, List.mem_append, List.mem_singleton]

end Table

/-! ## Histories -/

/-- The request brings no routine that reports a binding, and its calls report none. -/
def Request.ReportsNoBinding {κ D : Type} : Request U κ D → Prop
  | bind _ b => ∀ args, (b.body args).ReportsNoBinding
  | call _ _ _ _ dispatch _ => Dispatch.ReportsNoBinding dispatch
  | isBound _ | declare _ => True

namespace Board

variable {κ D : Type}

/-- The events of an answered request that are the table's own: of a call only the first, as those
    after it are the routine's. -/
def own : Request U κ D × Response U D → List Event
  | (.call _ _ _ _ _ _, a) => a.events.take 1
  | (_, a) => a.events

/-- The table's own events in a history. -/
def reported (s : Board U κ D) (h : List (Request U κ D)) : List Event :=
  (s.log h).flatMap own

/-- All events in a history, those of the routines included. -/
def emitted (s : Board U κ D) (h : List (Request U κ D)) : List Event :=
  (s.log h).flatMap (·.2.events)

/-- Of a call, the one event that is the table's own reports no binding. -/
theorem own_call (s : Board U κ D) (o : String) (A R : Ty U) (args : A.Val)
    (dispatch : Dispatch U κ D) (x : D) :
    let r : Request U κ D := .call o A R args dispatch x
    ∃ e, own (r, (s.step r).1) = [e] ∧ ¬ e.isBinding := by
  rcases Table.call_reports s.contract s.table dispatch o A R args x with
    ⟨f, -, -, h⟩ | ⟨e, -, -, h⟩
  · refine ⟨.invoking s.contract.name o, ?_, by simp [Event.isBinding]⟩
    simp only [own, step, h]
    rfl
  · refine ⟨.rejected s.contract.name o e, ?_, by simp [Event.isBinding]⟩
    simp only [own, step, h]
    rfl

/-- **The names told after a request** are those told before and the one it reports as bound for the
    first time, if it does. -/
theorem boundOperations_step_perm {s : Board U κ D} (hs : s.Fits)
    (hfirst : s.table.AtFirst s.contract) (r : Request U κ D) :
    (s.step r).2.boundOperations.Perm
      (s.boundOperations ++ (own (r, (s.step r).1)).filterMap Event.firstBound?) := by
  cases r with
  | bind o b =>
    rcases Table.bind_cases s.contract o b s.table with ⟨i, hi, -, h⟩ | ⟨-, e, h⟩
    · have hlt : i < s.table.slots.length := by
        rw [hs]
        exact Contract.position?_lt hi
      have hperm := Table.boundOperations_set_perm hfirst hi hlt b
      simp only [own, step, h, boundOperations]
      rcases hslot : (s.table.slot? i).isSome <;> rw [hslot] at hperm <;> exact hperm
    · simp only [own, step, h, List.filterMap_nil, List.append_nil]
      exact List.Perm.refl _
  | call o A R args dispatch x =>
    obtain ⟨e, hown, he⟩ := s.own_call o A R args dispatch x
    rw [hown, List.filterMap_cons, Event.firstBound?_eq_none he, List.filterMap_nil,
      List.append_nil]
    exact List.Perm.refl _
  | isBound o =>
    rw [show own _ = [] from rfl, List.filterMap_nil, List.append_nil]
    exact List.Perm.refl _
  | declare signature =>
    rw [show own _ = [] from rfl, List.filterMap_nil, List.append_nil]
    exact List.Perm.refl _

/-- **The names told after a history** are those told before and those reported as bound for the
    first time. -/
theorem boundOperations_after_perm {s : Board U κ D} (hs : s.Fits)
    (hfirst : s.table.AtFirst s.contract) (h : List (Request U κ D)) :
    (s.after h).boundOperations.Perm
      (s.boundOperations ++ (s.reported h).filterMap Event.firstBound?) := by
  induction h generalizing s with
  | nil =>
    simp only [reported, log, List.flatMap_nil, List.filterMap_nil, List.append_nil]
    exact List.Perm.refl _
  | cons r h ih =>
    have hstep := boundOperations_step_perm hs hfirst r
    have hrest := ih (step_fits hs r) (step_atFirst hfirst r)
    simp only [reported, log, List.flatMap_cons, List.filterMap_append] at hrest ⊢
    rw [← List.append_assoc]
    exact hrest.trans (hstep.append_right _)

/-- Routines that report no binding stay the only ones in the table. -/
theorem step_reportsNoBinding {s : Board U κ D} (hs : s.table.ReportsNoBinding) {r : Request U κ D}
    (hr : r.ReportsNoBinding) : (s.step r).2.table.ReportsNoBinding := by
  rcases s.step_cases r with ⟨o, b, i, rfl, -, -, -, h⟩ | ⟨-, signature, h⟩
  · rw [h]
    intro j b' hb'
    rcases Table.slot?_set_cases hb' with ⟨-, rfl⟩ | hb'
    · exact hr
    · exact hs j b' hb'
  · rw [h]
    exact hs

/-- The events that are not the table's own report nothing as bound. -/
theorem filterMap_events {s : Board U κ D} (hs : s.table.ReportsNoBinding) {r : Request U κ D}
    (hr : r.ReportsNoBinding) :
    (s.step r).1.events.filterMap Event.firstBound? =
      (own (r, (s.step r).1)).filterMap Event.firstBound? := by
  cases r with
  | call o A R args dispatch x =>
    have hnone : ∀ e ∈ (s.step (.call o A R args dispatch x)).1.events, e.firstBound? = none :=
      fun e he => Event.firstBound?_eq_none
        (Table.call_reportsNoBinding hs hr s.contract o A R args x e he)
    rw [List.filterMap_eq_nil_iff.2 hnone, eq_comm, List.filterMap_eq_nil_iff]
    exact fun e he => hnone e (List.mem_of_mem_take he)
  | bind o b => rfl
  | isBound o => rfl
  | declare signature => rfl

/-- If no routine reports a binding, the events of a history tell as much as the table's own. -/
theorem filterMap_emitted {s : Board U κ D} (hs : s.table.ReportsNoBinding)
    {h : List (Request U κ D)} (hh : ∀ r ∈ h, r.ReportsNoBinding) :
    (s.emitted h).filterMap Event.firstBound? = (s.reported h).filterMap Event.firstBound? := by
  induction h generalizing s with
  | nil => rfl
  | cons r h ih =>
    obtain ⟨hr, hh⟩ := List.forall_mem_cons.1 hh
    have hrest := ih (step_reportsNoBinding hs hr) hh
    simp only [emitted, reported, log, List.flatMap_cons, List.filterMap_append] at hrest ⊢
    rw [filterMap_events hs hr, hrest]

theorem start_reportsNoBinding (c : Contract U) :
    (start c : Board U κ D).table.ReportsNoBinding := by
  intro i b hb
  simp [start] at hb

theorem boundOperations_start (c : Contract U) : (start c : Board U κ D).boundOperations = [] := by
  rw [List.eq_nil_iff_forall_not_mem]
  intro o ho
  obtain ⟨i, -, hi⟩ := Table.mem_boundOperations.1 ho
  simp [start] at hi

/-- An accepted binding reports whether a binding of the same name was accepted before. -/
theorem events_bind_after (c : Contract U) (h : List (Request U κ D)) (o : String)
    (b : Binding U κ D) :
    let s := (start c : Board U κ D).after h
    let r := (s.step (.bind o b)).1
    (r.granted → ∃ replaced, r.events = [.bound c.name o replaced] ∧
      (replaced = true ↔ (start c : Board U κ D).accepted h o ≠ [])) ∧
    (¬ r.granted → r.events = []) := by
  intro s r
  have hgranted := s.granted_bind_iff o b
  rcases Table.bind_cases s.contract o b s.table with ⟨i, hi, hs, hbind⟩ | ⟨hn, e, hbind⟩
  · have hr : r.granted := hgranted.2 ⟨Contract.exists_position?_iff.1 ⟨i, hi⟩, hs⟩
    refine ⟨fun _ => ⟨(s.table.slot? i).isSome, ?_, ?_⟩, fun hn => absurd hr hn⟩
    · simp only [r, step, hbind]
      rw [show s.contract.name = c.name from after_name _ h]
    · rw [slot?_after_start hi, lastAccepted, List.getLast?_isSome]
  · have hr : ¬ r.granted := fun hr => hn (hgranted.1 hr)
    refine ⟨fun h => absurd h hr, fun _ => ?_⟩
    simp only [r, step, hbind]

/-- What the events tell of a table that started empty under `c`, is now on the board `s` after the
    history `h`, and whose names in `first` were reported as bound for the first time. -/
structure EventsLog (c : Contract U) (h : List (Request U κ D)) (s : Board U κ D)
    (first : List String) : Prop where
  /-- An accepted binding reports itself once, and tells whether one of its name was accepted
      before; a refused one reports nothing. -/
  bind : ∀ o b, let r := (s.step (.bind o b)).1
    (r.granted → ∃ replaced, r.events = [.bound c.name o replaced] ∧
      (replaced = true ↔ (start c : Board U κ D).accepted h o ≠ [])) ∧
    (¬ r.granted → r.events = [])
  isBound : ∀ o, (s.step (.isBound o)).1.events = []
  name : s.contract.name = c.name
  /-- A call reports itself once and first. -/
  call : ∀ dispatch o A R args x, s.table.Reports s.contract dispatch o A R args x
    (s.table.call s.contract dispatch o A R args x)
  /-- So does a call that a routine makes through the same table. -/
  nested : ∀ contracts tables depth k, contracts k = s.contract → tables k = s.table →
    ∀ o A R args x, s.table.Reports s.contract (Instance.dispatch contracts tables depth) o A R
      args x (Instance.dispatch contracts tables (depth + 1) k o A R args x)
  /-- The event of a refused call tells the failure that is returned. -/
  rejected : ∀ o e, let event := Event.rejected c.name o e
    event.message = "invocation rejected" ∧ ("error", .shown e.message) ∈ event.fields
  nodup : first.Nodup
  mem_first : ∀ o, o ∈ first ↔ o ∈ s.table.boundOperations s.contract
  length_first : first.length = s.table.slots.countP (·.isSome)
  /-- The names can be read from all events, if the routines report no binding themselves. -/
  emitted : (∀ r ∈ h, r.ReportsNoBinding) →
    ((start c : Board U κ D).emitted h).filterMap Event.firstBound? = first

/-- **The events of a table are a faithful log of it.**  Take any history of a table that started
    empty.  An accepted binding reports itself once, and tells whether an earlier binding of its name
    was accepted; a refused binding and a question report nothing.  A call reports itself once and
    first: that its routine is invoked, or that it is rejected, with the text of the failure that it
    returns; and so does a call that a routine makes through the same table.  So no name is reported
    twice as bound for the first time, the names so reported are those told as bound, and there are
    as many of them as filled slots.  If the routines themselves report no binding, this can be read
    from all events together. -/
theorem events_log_table (c : Contract U) (h : List (Request U κ D)) :
    EventsLog c h ((start c).after h) (((start c).reported h).filterMap Event.firstBound?) := by
  have hfirst : (start c : Board U κ D).table.AtFirst c := start_atFirst c
  have hfits : (start c : Board U κ D).Fits := start_fits c
  have hperm := boundOperations_after_perm hfits hfirst h
  rw [boundOperations_start, List.nil_append] at hperm
  have hlength := Table.boundOperations_length (after_fits hfits h)
  refine {
    bind := events_bind_after c h
    isBound := fun o => rfl
    name := after_name _ h
    call := fun dispatch o A R args x => Table.call_reports ..
    nested := fun contracts tables depth k hk ht => ?_
    rejected := fun o e => ⟨rfl, by simp [Event.fields]⟩
    nodup := hperm.nodup_iff.1 (Table.boundOperations_nodup (after_atFirst hfirst h))
    mem_first := fun o => hperm.mem_iff.symm
    length_first := hperm.length_eq.symm.trans hlength
    emitted := filterMap_emitted (start_reportsNoBinding c) }
  rw [← hk, ← ht]
  exact Instance.dispatch_reports contracts tables depth k

/-- A routine that calls on through the same table is bound, called and bound again, and a binding
    is refused: the events tell all of it, those of the inner call included. -/
theorem events_log_table_forward :
    let c := Bench.Key.shifty.contract
    let number : Ty Bench.types := .base .uint32
    let same : Binding Bench.types Unit Nat := ⟨.tuple [number], number, fun args => .done args.1⟩
    let forward : Binding Bench.types Unit Nat := ⟨.unit, number, fun _ =>
      .call () "beta" (.tuple [number]) number (5, ()) fun r => .done (r.toOption.getD 0)⟩
    let t := ((start c).after [.bind "beta" same, .bind "alpha" forward]).table
    let dispatch := Instance.dispatch (fun _ => c) (fun _ => t) 1
    let h : List (Request Bench.types Unit Nat) :=
      [.bind "beta" same, .bind "alpha" forward, .bind "ghost" same,
        .call "alpha" .unit number () dispatch 0, .bind "alpha" forward]
    let s := (start c).after h
    (start c).emitted h =
        [.bound "Shifty" "beta" false, .bound "Shifty" "alpha" false, .invoking "Shifty" "alpha",
          .invoking "Shifty" "beta", .bound "Shifty" "alpha" true] ∧
      ((start c).emitted h).filterMap Event.firstBound? =
        ((start c).reported h).filterMap Event.firstBound? ∧
      (∀ o, o ∈ ["beta", "alpha"] ↔ o ∈ s.table.boundOperations s.contract) ∧
      (∃ replaced, (s.step (.bind "beta" same)).1.events = [.bound "Shifty" "beta" replaced] ∧
        (replaced = true ↔ (start c).accepted h "beta" ≠ [])) ∧
      (s.step (.bind "ghost" same)).1.events = [] ∧
      t.Reports c dispatch "alpha" .unit number () 0
        (Instance.dispatch (fun _ => c) (fun _ => t) 2 () "alpha" .unit number () 0) := by
  intro c number same forward t dispatch h s
  have hsame : ∀ args, (same.body args).ReportsNoBinding := fun _ => trivial
  have hforward : ∀ args, (forward.body args).ReportsNoBinding := fun _ _ => trivial
  have ht : t.ReportsNoBinding :=
    step_reportsNoBinding (s := ((start c).step (.bind "beta" same)).2)
      (step_reportsNoBinding (start_reportsNoBinding c) hsame) hforward
  have hdispatch : Dispatch.ReportsNoBinding dispatch :=
    Instance.dispatch_reportsNoBinding (fun _ => c) (fun _ => ht) 1
  have hh : ∀ r ∈ h, r.ReportsNoBinding := by
    simp only [h, List.forall_mem_cons]
    exact ⟨hsame, hforward, hsame, hdispatch, hforward, fun _ hr => nomatch hr⟩
  have hlog := events_log_table c h
  have hbefore := events_log_table c [.bind "beta" same, .bind "alpha" forward]
  exact ⟨rfl, hlog.emitted hh, hlog.mem_first, (hlog.bind "beta" same).1 rfl,
    (hlog.bind "ghost" same).2 (by decide),
    hbefore.nested (fun _ => c) (fun _ => t) 1 () rfl rfl "alpha" .unit number () 0⟩

end Board

end Switchboard
