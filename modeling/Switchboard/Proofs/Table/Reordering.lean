/-
  The order of bindings.

  A request is about one name, or, if it changes signatures, about all of them.  What happens to a
  name can be told from the requests about it: the others neither change how it is answered nor what
  its slot holds, since different names have different positions.  So requests about different
  names can be exchanged freely, and only the order within each name matters.

  * `Request.about`: which names a request is about;
  * `AgreeOn`: two boards that cannot be told apart by requests about a given name;
  * `step_unnoticed`, `step_agreeOn`: requests about other names are not noticed, those about the
    name keep agreement;
  * `log_filter_about`, `after_agreeOn`: the same for a history and the part of it about a name;
  * `after_eq_of_filter_about`: histories with the same part about each name lead to the same table;
  * `reordered_bindings_agree`: bindings in another order.
-/
import Switchboard.Bench.Catalog
import Switchboard.Proofs.Table.History

namespace Switchboard

variable {U : Universe}

/-- Lists with the same members of each kind, in the same order, are permutations of each other. -/
theorem perm_of_filter_eq {α β : Type} [DecidableEq β] (f : α → β) {xs ys : List α}
    (h : ∀ b, xs.filter (f · == b) = ys.filter (f · == b)) : xs.Perm ys := by
  classical
  rw [List.perm_iff_count]
  intro a
  have hcount : ∀ zs : List α, (zs.filter (f · == f a)).count a = zs.count a :=
    fun zs => List.count_filter (p := (f · == f a)) (beq_self_eq_true (f a))
  rw [← hcount xs, ← hcount ys, h]

/-- Whether a request is about the name `o`; a change of signatures is about every name. -/
def Request.about {κ D : Type} (o : String) : Request U κ D → Bool
  | bind o' _ | call o' _ _ _ _ _ | isBound o' => o' == o
  | declare _ => true

/-- What a call looks up depends on the slot of its name alone. -/
theorem Table.lookup_congr {κ D : Type} {c : Contract U} {t t' : Table U κ D} {o : String}
    (h : ∀ i, c.position? o = some i → t.slot? i = t'.slot? i) (A R : Ty U) :
    t.lookup c o A R = t'.lookup c o A R := by
  unfold lookup
  rcases hi : c.resolve o with e | i
  · rfl
  · simp only [h i (Contract.resolve_eq_ok_iff.1 hi)]

namespace Board

variable {κ D : Type} {s s' : Board U κ D} {r : Request U κ D} {o : String}

/-! ## One name -/

/-- The two boards have the same contract and the same slot for `o`. -/
def AgreeOn (o : String) (s s' : Board U κ D) : Prop :=
  s.contract = s'.contract ∧
    ∀ i, s.contract.position? o = some i → s.table.slots[i]? = s'.table.slots[i]?

theorem AgreeOn.refl (o : String) (s : Board U κ D) : AgreeOn o s s := ⟨rfl, fun _ _ => rfl⟩

theorem AgreeOn.symm (h : AgreeOn o s s') : AgreeOn o s' s := by
  refine ⟨h.1.symm, fun i hi => (h.2 i ?_).symm⟩
  rw [h.1]
  exact hi

theorem AgreeOn.trans {s'' : Board U κ D} (h : AgreeOn o s s') (h' : AgreeOn o s' s'') :
    AgreeOn o s s'' := by
  refine ⟨h.1.trans h'.1, fun i hi => (h.2 i hi).trans (h'.2 i ?_)⟩
  rw [← h.1]
  exact hi

/-- **Requests about other names are not noticed.** -/
theorem step_unnoticed (hr : ¬ r.about o) : AgreeOn o (s.step r).2 s := by
  cases r with
  | bind o' b =>
    rcases Table.bind_cases s.contract o' b s.table with ⟨j, hj, -, h⟩ | ⟨-, e, h⟩
    · simp only [step, h]
      refine ⟨rfl, fun i hi => List.getElem?_set_ne ?_⟩
      -- another name stands at another position
      rintro rfl
      exact hr (beq_iff_eq.2 (Contract.position?_inj hj hi))
    · simp only [step, h]
      exact AgreeOn.refl o s
  | call | isBound => exact AgreeOn.refl o s
  | declare => exact absurd rfl hr

/-- **Requests about a name are answered alike** on boards that agree on it, and these agree
    afterwards. -/
theorem step_agreeOn (h : AgreeOn o s s') (hr : r.about o) :
    (s.step r).1 = (s'.step r).1 ∧ AgreeOn o (s.step r).2 (s'.step r).2 := by
  obtain ⟨c, t⟩ := s
  obtain ⟨c', t'⟩ := s'
  obtain ⟨rfl, hslots⟩ := h
  have hslot : ∀ i, c.position? o = some i → t.slot? i = t'.slot? i :=
    fun i hi => congrArg Option.join (hslots i hi)
  cases r with
  | bind o' b =>
    obtain rfl : o' = o := beq_iff_eq.1 hr
    simp only [step, Table.bind, Table.install]
    rcases hi : c.resolve o' with e | i
    · exact ⟨rfl, rfl, hslots⟩
    · have hpos := Contract.resolve_eq_ok_iff.1 hi
      rcases c.check o' b.params b.ret with e | _
      · exact ⟨rfl, rfl, hslots⟩
      · refine ⟨by simp only [hslot i hpos], rfl, fun j hj => ?_⟩
        obtain rfl : i = j := Option.some.inj (hpos.symm.trans hj)
        simp only [List.getElem?_set_self', hslots i hpos]
  | call o' A R args dispatch x =>
    obtain rfl : o' = o := beq_iff_eq.1 hr
    refine ⟨?_, rfl, hslots⟩
    simp only [step, Table.call, Table.lookup_congr hslot A R]
  | isBound o' =>
    obtain rfl : o' = o := beq_iff_eq.1 hr
    refine ⟨?_, rfl, hslots⟩
    simp only [step, Table.isBound]
    rcases hi : c.resolve o' with e | i
    · rfl
    · simp only [Except.map, hslot i (Contract.resolve_eq_ok_iff.1 hi)]
  | declare signature => exact ⟨rfl, rfl, hslots⟩

/-- A history and the part of it about a name, on boards that agree on the name: the requests about
    it get the same responses, and the boards agree on it afterwards. -/
theorem run_agreeOn (h : AgreeOn o s s') (history : List (Request U κ D)) :
    (s.log history).filter (·.1.about o) = s'.log (history.filter (·.about o)) ∧
      AgreeOn o (s.after history) (s'.after (history.filter (·.about o))) := by
  induction history generalizing s s' with
  | nil => exact ⟨rfl, h⟩
  | cons r rest ih =>
    by_cases hr : r.about o
    · obtain ⟨hresponse, hnext⟩ := step_agreeOn h hr
      obtain ⟨hlog, hend⟩ := ih hnext
      rw [List.filter_cons_of_pos hr]
      refine ⟨?_, hend⟩
      rw [log, log, List.filter_cons, if_pos hr, hresponse, hlog]
    · obtain ⟨hlog, hend⟩ := ih ((step_unnoticed hr).trans h)
      rw [List.filter_cons_of_neg hr]
      refine ⟨?_, hend⟩
      rw [log, List.filter_cons, if_neg hr, hlog]

/-- **The responses about a name depend on the requests about it alone.** -/
theorem log_filter_about (s : Board U κ D) (history : List (Request U κ D)) (o : String) :
    (s.log history).filter (·.1.about o) = s.log (history.filter (·.about o)) :=
  (run_agreeOn (AgreeOn.refl o s) history).1

/-- So does what is left in its slot. -/
theorem after_agreeOn (s : Board U κ D) (history : List (Request U κ D)) (o : String) :
    AgreeOn o (s.after history) (s.after (history.filter (·.about o))) :=
  (run_agreeOn (AgreeOn.refl o s) history).2

/-! ## All names -/

/-- A slot that is no name's is never written. -/
theorem getElem?_slots_step {i : Nat} (hi : ∀ o, s.contract.position? o ≠ some i)
    (r : Request U κ D) : (s.step r).2.table.slots[i]? = s.table.slots[i]? := by
  rcases s.step_cases r with ⟨o, b, j, -, hj, -, -, h⟩ | ⟨-, signature, h⟩
  · rw [h]
    refine List.getElem?_set_ne ?_
    rintro rfl
    exact hi o hj
  · rw [h]

theorem getElem?_slots_after {i : Nat} (hi : ∀ o, s.contract.position? o ≠ some i)
    (history : List (Request U κ D)) : (s.after history).table.slots[i]? = s.table.slots[i]? := by
  induction history generalizing s with
  | nil => rfl
  | cons r rest ih =>
    have hi' : ∀ o, (s.step r).2.contract.position? o ≠ some i := by
      intro o
      rw [show (s.step r).2.contract.position? o = _ from s.after_position? [r] o]
      exact hi o
    exact (ih hi').trans (getElem?_slots_step hi r)

/-- **Histories with the same part about each name lead to the same table.** -/
theorem after_eq_of_filter_about {history history' : List (Request U κ D)}
    (h : ∀ o, history.filter (·.about o) = history'.filter (·.about o)) :
    (s.after history).table = (s.after history').table := by
  have hslots : (s.after history).table.slots = (s.after history').table.slots := by
    refine List.ext_getElem? fun i => ?_
    by_cases hi : ∃ o, s.contract.position? o = some i
    · obtain ⟨o, ho⟩ := hi
      have hend := s.after_agreeOn history o
      rw [h o] at hend
      refine (hend.trans (s.after_agreeOn history' o).symm).2 i ?_
      rw [after_position?]
      exact ho
    · rw [not_exists] at hi
      rw [getElem?_slots_after hi, getElem?_slots_after hi]
  exact congrArg Table.mk hslots

/-- **Only the order within each name matters.**  Take any contract, any table, and two lists of
    bindings that have the same bindings of each name in the same order; the lists are then
    permutations of each other.  Carried out on the table, the two lists give each binding the same
    response: it is accepted in both or refused in both for the same reason, and if accepted, it
    reports alike whether its slot was filled before.  They end in the same table, so that nothing
    that is asked later can tell them apart.  The slot of a name then holds the binding of that name
    that was accepted last, whatever was accepted before it, and is as it was if none was. -/
theorem reordered_bindings_agree (c : Contract U) (t : Table U κ D)
    (binds binds' : List (String × Binding U κ D))
    (hsame : ∀ o, binds.filter (·.1 == o) = binds'.filter (·.1 == o)) :
    let s : Board U κ D := ⟨c, t⟩
    let h : List (Request U κ D) := binds.map fun p => .bind p.1 p.2
    let h' : List (Request U κ D) := binds'.map fun p => .bind p.1 p.2
    binds.Perm binds' ∧
    (∀ o, (s.log h).filter (·.1.about o) = (s.log h').filter (·.1.about o)) ∧
    s.after h = s.after h' ∧
    (t.slots.length = c.operations.length → ∀ o i, c.position? o = some i →
      (s.after h).table.slot? i = (s.lastAccepted h o).or (t.slot? i)) := by
  intro s h h'
  have hfilter : ∀ o, h.filter (·.about o) = h'.filter (·.about o) := by
    intro o
    rw [List.filter_map, List.filter_map]
    exact congrArg _ (hsame o)
  have hkeeps : ∀ binds : List (String × Binding U κ D),
      ∀ r ∈ binds.map fun p => Request.bind p.1 p.2, r.KeepsSignatures := by
    intro binds r hr
    obtain ⟨p, -, rfl⟩ := List.mem_map.1 hr
    trivial
  refine ⟨perm_of_filter_eq (·.1) hsame, fun o => ?_, ?_, fun hfits o i hi => ?_⟩
  · rw [log_filter_about, log_filter_about, hfilter]
  · have hcontract : (s.after h).contract = (s.after h').contract := by
      rw [after_contract s (hkeeps binds), after_contract s (hkeeps binds')]
    have htable : (s.after h).table = (s.after h').table := after_eq_of_filter_about hfilter
    calc s.after h = ⟨(s.after h).contract, (s.after h).table⟩ := rfl
      _ = s.after h' := by rw [hcontract, htable]
  · have hs : s.Fits := hfits
    exact slot?_after hs hi h

/-- A name that is bound twice, once at the wrong types and once as it should be, with bindings of
    other names before or after it: the orders are told apart by nothing. -/
theorem reordered_bindings_agree_shifty :
    let c := Bench.Key.shifty.contract
    let word (n : UInt32) : Binding Bench.types Unit Nat :=
      ⟨.tuple [], .base .uint32, fun _ => .done n⟩
    let flag : Binding Bench.types Unit Nat := ⟨.tuple [], .base .bool, fun _ => .done true⟩
    let t : Table Bench.types Unit Nat := ⟨[some (word 0), none, none, none, none]⟩
    let binds := [("alpha", word 1), ("alpha", flag), ("ünï", flag), ("alpha", word 2),
      ("ghost", word 3), ("ünï", flag)]
    let binds' := [("ghost", word 3), ("ünï", flag), ("alpha", word 1), ("ünï", flag),
      ("alpha", flag), ("alpha", word 2)]
    let s : Board Bench.types Unit Nat := ⟨c, t⟩
    let h : List (Request Bench.types Unit Nat) := binds.map fun p => .bind p.1 p.2
    let h' : List (Request Bench.types Unit Nat) := binds'.map fun p => .bind p.1 p.2
    (∀ o, binds.filter (·.1 == o) = binds'.filter (·.1 == o)) ∧
      t.slots.length = c.operations.length ∧ binds.Perm binds' ∧
      (s.log h').filter (·.1.about "ünï") =
        [(.bind "ünï" flag, ⟨.returned (.ok .done), [.bound "Shifty" "ünï" false], none⟩),
          (.bind "ünï" flag, ⟨.returned (.ok .done), [.bound "Shifty" "ünï" true], none⟩)] ∧
      s.after h = s.after h' ∧ (s.after h).table.slot? 0 = some (word 2) := by
  intro c word flag t binds binds' s h h'
  have hsame : ∀ o, binds.filter (·.1 == o) = binds'.filter (·.1 == o) := by
    intro o
    by_cases halpha : "alpha" = o
    · subst halpha; rfl
    by_cases huni : "ünï" = o
    · subst huni; rfl
    by_cases hghost : "ghost" = o
    · subst hghost; rfl
    simp [binds, binds', halpha, huni, hghost]
  obtain ⟨hperm, hlog, hafter, hslot⟩ := reordered_bindings_agree c t binds binds' hsame
  exact ⟨hsame, rfl, hperm, (hlog "ünï").symm.trans rfl, hafter, hslot rfl "alpha" 0 rfl⟩

end Board

end Switchboard
