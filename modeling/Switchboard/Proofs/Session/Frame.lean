/-
  What a step of a session changes.

  A binding changes one slot of one table or nothing.  A call changes the data of the instance it is
  made on or nothing; the routine it runs may do anything with these data, and call on through the
  tables of the same instance, but every slot stays as it was.  A refused call gets as far as the
  types in the slots: what is bound there, and the data, play no part.

  * `apply_bind_cases`, `step_callThrough`: what bindings and calls come to;
  * `table_step_cases`: what a step of any kind does to a table;
  * `lookup_error_of_types`: a refusal depends on the types in the slots alone;
  * `step_changes_only_its_slot`: what bindings and calls change in a session.
-/
import Switchboard.Bench.Catalog
import Switchboard.Proofs.Table.Calls
import Switchboard.Session

namespace Switchboard

variable {U : Universe}

/-! ## Types in the slots -/

namespace Table

variable {κ D : Type} {c : Contract U} {t t' : Table U κ D} {o : String} {A R : Ty U}

/-- The types with which the slots are bound. -/
def types (t : Table U κ D) : List (Option (Ty U × Ty U)) :=
  t.slots.map (·.map fun b => (b.params, b.ret))

theorem slot?_types (t : Table U κ D) (i : Nat) :
    (t.slot? i).map (fun b => (b.params, b.ret)) = t.types[i]?.join := by
  simp only [slot?, types, List.getElem?_map]
  cases t.slots[i]? <;> rfl

/-- Whether a call is refused, and why, depends on the types in the slots alone. -/
theorem lookup_error_of_types (h : t.types = t'.types) {e : Failure}
    (he : t.lookup c o A R = .error e) : t'.lookup c o A R = .error e := by
  unfold lookup at he ⊢
  rcases hi : c.resolve o with e' | i
  · simpa only [hi] using he
  · have hslot := (t.slot?_types i).trans ((congrArg (·[i]?.join) h).trans (t'.slot?_types i).symm)
    rcases hb : t.slot? i with _ | b <;> rcases hb' : t'.slot? i with _ | b'
    · simpa only [hi, hb, hb'] using he
    · simp [hb, hb'] at hslot
    · simp [hb, hb'] at hslot
    · have hat : (b.at? A R).isSome ↔ (b'.at? A R).isSome := by
        simp only [hb, hb', Option.map_some, Option.some.injEq, Prod.mk.injEq] at hslot
        rw [Binding.at?_isSome_iff, Binding.at?_isSome_iff, hslot.1, hslot.2]
      simp only [hi, hb] at he
      rcases hc : c.check o A R with e' | _
      · simpa only [hi, hb', hc] using he
      · rcases hf : b.at? A R with _ | f <;> rcases hf' : b'.at? A R with _ | f'
        · simpa only [hi, hb', hc, hf, hf'] using he
        · simp [hf, hf'] at hat
        · simp [hf, hf'] at hat
        · simp [hc, hf] at he

end Table

/-! ## Actions -/

namespace Action

variable {κ D : Type} [DecidableEq κ]

/-- **What a binding does to an instance.**  It fills the slot of its name in one table, or it is
    refused and leaves the instance. -/
theorem apply_bind_cases (contracts : κ → Contract U) (depth : Nat) (k : κ) (o : String)
    (b : Binding U κ D) (x : Instance U κ D) :
    let t := x.tables k
    (∃ p, (contracts k).position? o = some p ∧ (contracts k).Signs o b.params b.ret ∧
      (bind k o b).apply contracts depth x =
        ⟨.returned (.ok .done), x.withTable k ⟨t.slots.set p (some b)⟩,
          [.bound (contracts k).name o (t.slot? p).isSome]⟩) ∨
    (∃ e, (bind k o b).apply contracts depth x = ⟨.returned (.error e), x, []⟩) := by
  intro t
  have hrun : (bind k o b).apply contracts depth x =
      let r := Table.bind (contracts k) o b t
      ⟨r.outcome.map (·.map fun _ => .done), x.withTable k r.state, r.events⟩ :=
    Effect.bind_pure_run (Instance.bind contracts k o b) (·.map fun _ => Reply.done) x
  rcases Table.bind_cases (contracts k) o b t with ⟨p, hp, hs, h⟩ | ⟨-, e, h⟩
  · refine Or.inl ⟨p, hp, hs, ?_⟩
    rw [hrun, h]
    rfl
  · refine Or.inr ⟨e, ?_⟩
    rw [hrun, h]
    show (⟨_, x.withTable k (x.tables k), _⟩ : Run _ _) = _
    rw [Instance.withTable_self]
    rfl

/-- **What an action does to a table.**  It leaves the table, empties it, or fills one slot with a
    binding of the signed types. -/
theorem table_apply_cases (contracts : κ → Contract U) (depth : Nat) (a : Action U κ D)
    (x : Instance U κ D) (k : κ) :
    let t := (a.apply contracts depth x).state.tables k
    t = x.tables k ∨ t = .empty (contracts k) ∨
      ∃ o b p, (contracts k).position? o = some p ∧ (contracts k).Signs o b.params b.ret ∧
        t = ⟨(x.tables k).slots.set p (some b)⟩ := by
  intro t
  cases a with
  | bind k' o b =>
    rcases apply_bind_cases contracts depth k' o b x with ⟨p, hp, hs, h⟩ | ⟨e, h⟩
    · by_cases hk : k = k'
      · subst hk
        refine Or.inr (Or.inr ⟨o, b, p, hp, hs, ?_⟩)
        simp only [t, h, Instance.withTable_tables_self]
      · refine Or.inl ?_
        simp only [t, h, Instance.withTable_tables_other _ _ hk]
    · exact Or.inl (by simp only [t, h])
  | clear k' =>
    by_cases hk : k = k'
    · subst hk
      exact Or.inr (Or.inl (Instance.withTable_tables_self _ _ _))
    · exact Or.inl (Instance.withTable_tables_other _ _ hk)
  | invoke k' o A R args =>
    refine Or.inl ?_
    simp only [t, apply, Effect.bind_pure_run]
    rfl
  | perform r =>
    refine Or.inl ?_
    simp only [t, apply, Effect.bind_pure_run]
    rfl
  | isBound k' o => exact Or.inl rfl
  | inspect k' => exact Or.inl rfl

end Action

/-! ## Steps -/

/-- The step is a call on instance `j`, be it through the table of `j` or of another instance. -/
inductive Step.CallOn {κ D : Type} {n : Nat} (j : Fin n) : Step U κ D n → Prop
  | invoke (k : κ) (o : String) (A R : Ty U) (args : A.Val) :
    CallOn j (.act j (.invoke k o A R args))
  | callThrough (i : Fin n) (k : κ) (o : String) (A R : Ty U) (args : A.Val) :
    CallOn j (.callThrough i j k o A R args)

namespace Session

variable {κ D : Type} {n : Nat}

/-- The two sessions have the same contracts, and their slots are bound with the same types.  The
    routines in the slots and the data may differ. -/
def SameTypes (s s' : Session U κ D n) : Prop :=
  s.contracts = s'.contracts ∧
    ∀ (j : Fin n) k, ((s.member j).tables k).types = ((s'.member j).tables k).types

/-- Other data of an instance leave the tables of all. -/
theorem withMember_data_tables (s : Session U κ D n) (i j : Fin n) (data : D) :
    ((s.withMember i { s.member i with data }).member j).tables = (s.member j).tables := by
  by_cases h : j = i
  · subst h
    rw [withMember_member_self]
  · rw [withMember_member_other s h]

variable [DecidableEq κ]

/-- Replacing a table of an instance leaves all other tables. -/
theorem withMember_withTable_tables (s : Session U κ D n) (i j : Fin n) (k k' : κ)
    (t : Table U κ D) :
    ((s.withMember i ((s.member i).withTable k t)).member j).tables k' =
      if j = i ∧ k' = k then t else (s.member j).tables k' := by
  by_cases hj : j = i
  · subst hj
    by_cases hk : k' = k
    · subst hk
      rw [withMember_member_self, Instance.withTable_tables_self, if_pos ⟨rfl, rfl⟩]
    · rw [withMember_member_self, Instance.withTable_tables_other _ _ hk, if_neg fun h => hk h.2]
  · rw [withMember_member_other s hj, if_neg fun h => hj h.1]

/-- Replacing a table of an instance leaves the data of all. -/
theorem withMember_withTable_data (s : Session U κ D n) (i j : Fin n) (k : κ) (t : Table U κ D) :
    ((s.withMember i ((s.member i).withTable k t)).member j).data = (s.member j).data := by
  by_cases hj : j = i
  · subst hj
    rw [withMember_member_self]; rfl
  · rw [withMember_member_other s hj]

/-- A call on an instance is a call through the instance's own table. -/
theorem step_invoke (depth : Nat) (s : Session U κ D n) (i : Fin n) (k : κ) (o : String)
    (A R : Ty U) (args : A.Val) :
    s.step depth (.act i (.invoke k o A R args)) =
      s.step depth (.callThrough i i k o A R args) := by
  simp only [step, Action.answer, Action.apply, Action.shownTable, Effect.bind_run,
    Instance.invoke_eq_callThrough, map_eq_pure_bind]
  rfl

/-- Every call on instance `j` is a call through some table. -/
theorem exists_callThrough {j : Fin n} {st : Step U κ D n} (h : st.CallOn j) :
    ∃ i k o A R args, ∀ depth (s : Session U κ D n),
      s.step depth st = s.step depth (.callThrough i j k o A R args) := by
  cases h with
  | invoke k o A R args => exact ⟨j, k, o, A, R, args, fun _ s => s.step_invoke _ j k o A R args⟩
  | callThrough i k o A R args => exact ⟨i, k, o, A, R, args, fun _ _ => rfl⟩

/-- A call through the table of `i` on instance `j` is answered by the table, and only the data of
    `j` are those that the call left. -/
theorem step_callThrough (depth : Nat) (s : Session U κ D n) (i j : Fin n) (k : κ) (o : String)
    (A R : Ty U) (args : A.Val) :
    let r := ((s.member i).tables k).call (s.contracts k)
      (Instance.dispatch s.contracts (s.member j).tables depth) o A R args (s.member j).data
    s.step depth (.callThrough i j k o A R args) =
      (⟨r.outcome.map (·.map (.value R)), r.events, none⟩,
        s.withMember j { s.member j with data := r.state }) := by
  simp only [step, map_eq_pure_bind, Effect.bind_pure_run]
  rfl

/-- A call that is refused found nothing to run. -/
theorem lookup_of_step_callThrough {s : Session U κ D n} {depth : Nat} {i j : Fin n} {k : κ}
    {o : String} {A R : Ty U} {args : A.Val} {e : Failure}
    (he : (s.step depth (.callThrough i j k o A R args)).1.outcome = .returned (.error e)) :
    ((s.member i).tables k).lookup (s.contracts k) o A R = .error e := by
  rw [step_callThrough] at he
  exact Table.call_eq_error_iff.1 (Outcome.map_map_eq_error_iff.1 he)

/-- A call that finds nothing to run is answered by the refusal, and changes nothing. -/
theorem step_callThrough_refused {s : Session U κ D n} {i : Fin n} {k : κ} {o : String} {A R : Ty U}
    {e : Failure} (he : ((s.member i).tables k).lookup (s.contracts k) o A R = .error e)
    (depth : Nat) (j : Fin n) (args : A.Val) :
    s.step depth (.callThrough i j k o A R args) =
      (⟨.returned (.error e), [.rejected (s.contracts k).name o e], none⟩, s) := by
  have hcall : ((s.member i).tables k).call (s.contracts k)
      (Instance.dispatch s.contracts (s.member j).tables depth) o A R args (s.member j).data =
        .rejected (s.contracts k).name o e (s.member j).data := by
    rw [Table.call, he]; rfl
  rw [step_callThrough, hcall]
  show (_, s.withMember j (s.member j)) = _
  rw [withMember_self]
  rfl

/-- **What a step does to a table.**  After it, an instance has for a contract a table that was
    there before, be it its own or that of another instance, or an empty table, or its own with one
    slot filled with a binding of the signed types. -/
theorem table_step_cases (depth : Nat) (s : Session U κ D n) (st : Step U κ D n) (j : Fin n)
    (k : κ) :
    let t := ((s.step depth st).2.member j).tables k
    (∃ i : Fin n, t = (s.member i).tables k) ∨ t = .empty (s.contracts k) ∨
      ∃ o b p, (s.contracts k).position? o = some p ∧ (s.contracts k).Signs o b.params b.ret ∧
        t = ⟨((s.member j).tables k).slots.set p (some b)⟩ := by
  intro t
  cases st with
  | act i a =>
    by_cases hj : j = i
    · subst hj
      have ht : t = (a.apply s.contracts depth (s.member j)).state.tables k := by
        simp only [t, step, withMember_member_self]; rfl
      rw [ht]
      exact (a.table_apply_cases s.contracts depth (s.member j) k).imp_left fun h => ⟨j, h⟩
    · refine Or.inl ⟨j, ?_⟩
      simp only [t, step, withMember_member_other _ hj]
  | callThrough i i' k' o A R args =>
    refine Or.inl ⟨j, ?_⟩
    simp only [t, step_callThrough, withMember_data_tables]
  | swap i i' k' =>
    simp only [t, step, withMember_withTable_tables]
    split
    · rename_i h
      exact Or.inl ⟨i, by rw [h.2]⟩
    · split
      · rename_i h
        exact Or.inl ⟨i', by rw [h.2]⟩
      · exact Or.inl ⟨j, rfl⟩
  | declare k' o sig => exact Or.inl ⟨j, rfl⟩
  | describe k' ask => exact Or.inl ⟨j, rfl⟩
  | initLog => exact Or.inl ⟨j, rfl⟩

/-! ## Bindings and calls -/

/-- Filling a slot of a table of an instance leaves every other slot of every table. -/
theorem withMember_set_slots (s : Session U κ D n) (i j : Fin n) (k k' : κ) (p q : Nat)
    (b : Binding U κ D) :
    (((s.withMember i ((s.member i).withTable k
        ⟨((s.member i).tables k).slots.set p (some b)⟩)).member j).tables k').slots[q]? =
      if j = i ∧ k' = k ∧ q = p then ((s.member i).tables k).slots[p]?.map fun _ => some b
      else ((s.member j).tables k').slots[q]? := by
  rw [withMember_withTable_tables]
  by_cases hjk : j = i ∧ k' = k
  · obtain ⟨rfl, rfl⟩ := hjk
    by_cases hq : q = p
    · subst hq
      rw [if_pos ⟨rfl, rfl⟩, if_pos ⟨rfl, rfl, rfl⟩]
      exact List.getElem?_set_self'
    · rw [if_pos ⟨rfl, rfl⟩, if_neg fun h => hq h.2.2]
      exact List.getElem?_set_ne fun h => hq h.symm
  · rw [if_neg hjk, if_neg fun h => hjk ⟨h.1, h.2.1⟩]

/-- What a binding changes in a session: nothing if it is refused, and one slot of one table if it
    is accepted. -/
theorem step_bind_cases (depth : Nat) (s : Session U κ D n) (i : Fin n) (k : κ) (o : String)
    (b : Binding U κ D) :
    let r := s.step depth (.act i (.bind k o b))
    (∃ p, (s.contracts k).position? o = some p ∧ r.1.outcome = .returned (.ok .done) ∧
      r.2 = s.withMember i ((s.member i).withTable k
        ⟨((s.member i).tables k).slots.set p (some b)⟩)) ∨
    (∃ e, r.1.outcome = .returned (.error e) ∧ r.2 = s) := by
  intro r
  rcases Action.apply_bind_cases s.contracts depth k o b (s.member i) with ⟨p, hp, -, h⟩ | ⟨e, h⟩
  · refine Or.inl ⟨p, hp, ?_, ?_⟩ <;> simp only [r, step, Action.answer, h]
  · refine Or.inr ⟨e, ?_, ?_⟩ <;> simp only [r, step, Action.answer, h, withMember_self]

/-- **Refusals change nothing, and what is accepted changes its own slot only.**  In a session in
    any state, a binding that is refused leaves the whole session.  An accepted one leaves the
    contracts and all data, fills the slot at the first position of its name in the table of its
    instance and contract, and leaves every other slot of every table of every instance.  A call
    that is refused leaves the whole session, and runs no routine: with any other routines bound at
    the same types, and any other data, the answer is the same, and nothing changes either.  However
    a call ends, and whatever its routine does, the contracts and every table of every instance are
    as before, and so are the data of all instances but the one it is made on. -/
theorem step_changes_only_its_slot (depth : Nat) (s : Session U κ D n) :
    (∀ (i : Fin n) (k : κ) (o : String) (b : Binding U κ D),
      let r := s.step depth (.act i (.bind k o b))
      (∀ e, r.1.outcome = .returned (.error e) → r.2 = s) ∧
      ∀ v, r.1.outcome = .returned (.ok v) → ∃ p, (s.contracts k).position? o = some p ∧
        r.2.contracts = s.contracts ∧ (∀ j : Fin n, (r.2.member j).data = (s.member j).data) ∧
        ((r.2.member i).tables k).slots[p]? =
          ((s.member i).tables k).slots[p]?.map (fun _ => some b) ∧
        ∀ (j : Fin n) k' q, ¬ (j = i ∧ k' = k ∧ q = p) →
          ((r.2.member j).tables k').slots[q]? = ((s.member j).tables k').slots[q]?) ∧
    ∀ (j : Fin n) (st : Step U κ D n), st.CallOn j →
      let r := s.step depth st
      (∀ e, r.1.outcome = .returned (.error e) → r.2 = s ∧
        ∀ depth' (s' : Session U κ D n), s.SameTypes s' → s'.step depth' st = (r.1, s')) ∧
      r.2.contracts = s.contracts ∧
      (∀ i : Fin n, (r.2.member i).tables = (s.member i).tables) ∧
      ∀ i : Fin n, i ≠ j → r.2.member i = s.member i := by
  refine ⟨fun i k o b => ?_, fun j st hst => ?_⟩
  · intro r
    rcases s.step_bind_cases depth i k o b with ⟨p, hp, ho, hr⟩ | ⟨e, ho, hr⟩
    · refine ⟨fun e he => ?_, fun v _ => ⟨p, hp, ?_, fun j => ?_, ?_, fun j k' q hq => ?_⟩⟩
      · cases ho.symm.trans he
      · rw [hr]; rfl
      · rw [hr, withMember_withTable_data]
      · rw [hr, withMember_set_slots, if_pos ⟨rfl, rfl, rfl⟩]
      · rw [hr, withMember_set_slots, if_neg hq]
    · refine ⟨fun _ _ => hr, fun v hv => ?_⟩
      cases ho.symm.trans hv
  · intro r
    obtain ⟨i, k, o, A, R, args, hcall⟩ := exists_callThrough hst
    refine ⟨fun e he => ?_, ?_, fun i' => ?_, fun i' hi' => ?_⟩
    · simp only [r, hcall] at he
      have hl := lookup_of_step_callThrough he
      have hr : r = _ := (hcall depth s).trans (step_callThrough_refused hl depth j args)
      refine ⟨by rw [hr], fun depth' s' hs' => ?_⟩
      have hl' : ((s'.member i).tables k).lookup (s'.contracts k) o A R = .error e := by
        rw [← hs'.1]
        exact Table.lookup_error_of_types (hs'.2 i k) hl
      rw [hcall, step_callThrough_refused hl', hr, hs'.1]
    · simp only [r, hcall, step_callThrough]; rfl
    · simp only [r, hcall, step_callThrough, withMember_data_tables]
    · simp only [r, hcall, step_callThrough, withMember_member_other _ hi']

end Session

namespace Bench

/-- Adds one to the data and gives its argument back. -/
def counting : Binding types Unit Nat :=
  ⟨.tuple [.base .uint32], .base .uint32, fun args => .get fun d => .set (d + 1) (.done args.1)⟩

/-- Calls `beta` through the table of the same instance and gives what that gives. -/
def forwarding : Binding types Unit Nat :=
  ⟨.tuple [], .base .uint32, fun _ =>
    .call () "beta" (.tuple [.base .uint32]) (.base .uint32) (5, ()) fun r =>
      .done (r.toOption.getD 0)⟩

/-- Two fresh instances of the contract that lists a name twice. -/
def pair : Session types Unit Nat 2 :=
  ⟨fun _ => Key.shifty.contract, #v[.fresh (fun _ => Key.shifty.contract) 3,
    .fresh (fun _ => Key.shifty.contract) 7]⟩

end Bench

/-- Of two bindings the one of an unlisted name is refused, of two calls the one at other types than
    the signed ones. -/
theorem Session.step_changes_only_its_slot_pair :
    let s := (Bench.pair.step 1 (.act 0 (.bind () "beta" Bench.counting))).2
    let bound := s.step 1 (.act 0 (.bind () "alpha" Bench.forwarding))
    let called := bound.2.step 1 (.act 0 (.invoke () "alpha" (.tuple []) (.base .uint32) ()))
    let refused := bound.2.step 1 (.callThrough 0 1 () "alpha" (.tuple []) (.base .bool) ())
    (s.step 1 (.act 1 (.bind () "ghost" Bench.forwarding))).2 = s ∧
      (∀ q, q ≠ 0 → ((bound.2.member 0).tables ()).slots[q]? = ((s.member 0).tables ()).slots[q]?) ∧
      refused.2 = bound.2 ∧
      called.1.outcome = .returned (.ok (.value (.base .uint32) 5)) ∧ (called.2.member 0).data = 4 ∧
      ∀ i : Fin 2, (called.2.member i).tables = (bound.2.member i).tables := by
  intro s bound called refused
  have hs := step_changes_only_its_slot 1 s
  have hbound := step_changes_only_its_slot 1 bound.2
  refine ⟨(hs.1 1 () "ghost" Bench.forwarding).1 _ rfl, fun q hq => ?_, ?_, rfl, ?_, ?_⟩
  · obtain ⟨p, hp, -, -, -, h⟩ := (hs.1 0 () "alpha" Bench.forwarding).2 _ rfl
    obtain rfl : p = 0 := Option.some.inj (hp.symm.trans rfl)
    exact h 0 () q fun h => hq h.2.2
  · let c := Bench.Key.shifty.contract
    let word : Signature Bench.types := .of (.tuple []) (.base .uint32)
    let e := c.mismatch "alpha" word.text (.tuple []) (.base .bool)
    exact ((hbound.2 1 _ (.callThrough ..)).1 e rfl).1
  · decide +kernel
  · exact (hbound.2 0 _ (.invoke ..)).2.2.1

end Switchboard
