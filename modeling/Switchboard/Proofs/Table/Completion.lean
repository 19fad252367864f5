/-
  When a table can become complete.

  Every slot of a table can be filled iff every slot is the one that its name stands for and every
  name is signed.  A name that is listed twice leaves its later slots empty for ever, and a name
  without signature leaves all of its slots empty; nothing else is in the way, whatever is refused
  before, between and after.

  * `mem_accepted_iff`: which bindings a history accepts, if it keeps the signatures;
  * `isComplete_after_iff`: which histories make the table of distinct names complete;
  * `wellFormed_of_isComplete`: a complete table has distinct and signed names;
  * `completes_iff_wellFormed`: which tables can become complete, and how.
-/
import Switchboard.Proofs.Names
import Switchboard.Proofs.Table.Queries

namespace Switchboard

variable {U : Universe}

/-- A binding of the types of a signature, whose routine stops at once. -/
def Binding.stub {κ D : Type} (s : Signature U) : Binding U κ D :=
  ⟨s.params, s.ret, fun _ => .panic "not implemented"⟩

namespace Board

variable {κ D : Type}

/-! ## Accepted bindings where signatures stay -/

/-- A binding is granted iff its name is listed and signed with its types. -/
theorem granted_bind_iff (s : Board U κ D) (o : String) (b : Binding U κ D) :
    (s.step (.bind o b)).1.granted ↔
      o ∈ s.contract.operations ∧ s.contract.Signs o b.params b.ret := by
  rcases Table.bind_cases s.contract o b s.table with ⟨i, hi, hs, h⟩ | ⟨hn, e, h⟩
  · simp only [step, h]
    exact iff_of_true rfl ⟨Contract.exists_position?_iff.1 ⟨i, hi⟩, hs⟩
  · simp only [step, h]
    exact iff_of_false (by simp [Response.granted, Outcome.map, Except.map]) hn

theorem install?_eq_some_iff {s : Board U κ D} {r : Request U κ D} {o : String} {b : Binding U κ D} :
    install? o (r, (s.step r).1) = some b ↔
      r = .bind o b ∧ o ∈ s.contract.operations ∧ s.contract.Signs o b.params b.ret := by
  cases r with
  | bind o' b' =>
    simp only [install?, Option.ite_none_right_eq_some, Option.some.injEq, Request.bind.injEq]
    constructor
    · rintro ⟨⟨rfl, hg⟩, rfl⟩
      exact ⟨⟨rfl, rfl⟩, (s.granted_bind_iff _ _).1 hg⟩
    · rintro ⟨⟨rfl, rfl⟩, hs⟩
      exact ⟨⟨rfl, (s.granted_bind_iff _ _).2 hs⟩, rfl⟩
  | call | isBound | declare => simp [install?]

theorem accepted_cons (s : Board U κ D) (r : Request U κ D) (h : List (Request U κ D)) (o : String) :
    s.accepted (r :: h) o =
      (install? o (r, (s.step r).1)).toList ++ (s.step r).2.accepted h o := by
  simp only [accepted, log, List.filterMap_cons]
  cases install? o (r, (s.step r).1) <;> rfl

/-- **Where signatures stay, exactly the bindings of listed names at the signed types are
    accepted**, however many others were refused. -/
theorem mem_accepted_iff {s : Board U κ D} {h : List (Request U κ D)}
    (hh : ∀ r ∈ h, r.KeepsSignatures) {o : String} {b : Binding U κ D} :
    b ∈ s.accepted h o ↔
      .bind o b ∈ h ∧ o ∈ s.contract.operations ∧ s.contract.Signs o b.params b.ret := by
  induction h generalizing s with
  | nil => simp [accepted, log]
  | cons r h ih =>
    obtain ⟨hr, hh⟩ := List.forall_mem_cons.1 hh
    rw [accepted_cons, List.mem_append, Option.mem_toList, install?_eq_some_iff, ih hh,
      step_contract s hr, List.mem_cons]
    constructor
    · rintro (⟨rfl, hs⟩ | ⟨hmem, hs⟩)
      · exact ⟨Or.inl rfl, hs⟩
      · exact ⟨Or.inr hmem, hs⟩
    · rintro ⟨rfl | hmem, hs⟩
      · exact Or.inl ⟨rfl, hs⟩
      · exact Or.inr ⟨hmem, hs⟩

theorem lastAccepted_isSome_iff {s : Board U κ D} {h : List (Request U κ D)} {o : String} :
    (s.lastAccepted h o).isSome ↔ ∃ b, b ∈ s.accepted h o := by
  rw [lastAccepted, List.getLast?_isSome]
  constructor
  · exact List.exists_mem_of_ne_nil _
  · rintro ⟨b, hb⟩
    exact List.ne_nil_of_mem hb

/-! ## Complete tables -/

/-- After a history from an empty table on, a filled slot is the one that its name stands for. -/
theorem position?_of_filled {c : Contract U} {h : List (Request U κ D)} {i : Nat} {o : String}
    (ho : c.operations[i]? = some o)
    (hi : (((start c : Board U κ D).after h).table.slot? i).isSome) : c.position? o = some i := by
  have hfirst := after_atFirst (start_atFirst (κ := κ) (D := D) c) h
  have hpos := hfirst.position? (by rw [after_operations]; exact ho) hi
  rwa [after_position?] at hpos

/-- A slot behind the first one of its name is never filled. -/
theorem slot?_after_start_later (c : Contract U) (h : List (Request U κ D)) {i j : Nat} {o : String}
    (hij : i < j) (hi : c.operations[i]? = some o) (hj : c.operations[j]? = some o) :
    ((start c : Board U κ D).after h).table.slot? j = none := by
  rw [← Option.not_isSome_iff_eq_none]
  intro hsome
  have hpos := position?_of_filled hj hsome
  exact (Contract.position?_eq_some_iff.1 hpos).2 i hij hi

/-- **Distinct names are complete once each was bound at its signed types**, in any order and with
    anything in between. -/
theorem isComplete_after_iff {c : Contract U} (hc : c.operations.Nodup) {h : List (Request U κ D)}
    (hh : ∀ r ∈ h, r.KeepsSignatures) :
    ((start c : Board U κ D).after h).table.isComplete ↔
      ∀ o ∈ c.operations, ∃ b, .bind o b ∈ h ∧ c.Signs o b.params b.ret := by
  have hfits := after_fits (start_fits (κ := κ) (D := D) c) h
  have hslot : ∀ i o, c.operations[i]? = some o →
      ((((start c : Board U κ D).after h).table.slot? i).isSome ↔
        ∃ b, .bind o b ∈ h ∧ c.Signs o b.params b.ret) := by
    intro i o hi
    have hpos := Contract.nodup_operations_iff.1 hc i o hi
    have hlisted : o ∈ c.operations := List.mem_of_getElem? hi
    rw [slot?_after_start (by rw [after_position?]; exact hpos), lastAccepted_isSome_iff]
    constructor
    · rintro ⟨b, hb⟩
      obtain ⟨hmem, -, hs⟩ := (mem_accepted_iff hh).1 hb
      exact ⟨b, hmem, hs⟩
    · rintro ⟨b, hmem, hs⟩
      exact ⟨b, (mem_accepted_iff hh).2 ⟨hmem, hlisted, hs⟩⟩
  rw [Table.isComplete_iff hfits, after_operations]
  constructor
  · intro hcomplete o ho
    obtain ⟨i, hi⟩ := List.mem_iff_getElem?.1 ho
    exact (hslot i o hi).1 (hcomplete i o hi)
  · intro hall i o hi
    exact (hslot i o hi).2 (hall o (List.mem_of_getElem? hi))

/-- A table that became complete has distinct names, all of them signed. -/
theorem wellFormed_of_isComplete {c : Contract U} {h : List (Request U κ D)}
    (hh : ∀ r ∈ h, r.KeepsSignatures)
    (hcomplete : ((start c : Board U κ D).after h).table.isComplete) :
    c.operations.Nodup ∧ ∀ o ∈ c.operations, (c.signature o).isSome := by
  have hfilled := (Table.isComplete_iff (after_fits (start_fits c) h)).1 hcomplete
  rw [after_operations] at hfilled
  have hnd : c.operations.Nodup :=
    Contract.nodup_operations_iff.2 fun i o hi => position?_of_filled hi (hfilled i o hi)
  refine ⟨hnd, fun o ho => ?_⟩
  obtain ⟨b, -, sig, hsig, -, -⟩ := (isComplete_after_iff hnd hh).1 hcomplete o ho
  rw [hsig]
  rfl

/-- Signed names can all be bound, by routines of the signed types. -/
theorem exists_binds {c : Contract U} (hsigned : ∀ o ∈ c.operations, (c.signature o).isSome) :
    ∃ binds : List (String × Binding U κ D), ∀ o ∈ c.operations, ∃ b, (o, b) ∈ binds ∧
      c.Signs o b.params b.ret := by
  refine ⟨c.operations.filterMap fun o => (c.signature o).map fun sig => (o, .stub sig),
    fun o ho => ?_⟩
  obtain ⟨sig, hsig⟩ := Option.isSome_iff_exists.1 (hsigned o ho)
  refine ⟨.stub sig, List.mem_filterMap.2 ⟨o, ho, ?_⟩, sig, hsig, rfl, rfl⟩
  rw [hsig]
  rfl

/-- **A table can become complete iff its contract is well formed.**  There are bindings after which
    the empty table of a contract is complete iff the names of the contract are distinct and all
    signed.  If a name is listed twice, its later slot is empty after every history.  If the names
    are distinct, a history that leaves the signatures makes the table complete iff it binds each
    name, at some point, with the types signed for it, whatever else it binds, calls and asks, and
    in whatever order.  A contract without names is complete from the start. -/
theorem completes_iff_wellFormed (c : Contract U) :
    ((∃ binds : List (String × Binding U κ D),
        ((start c : Board U κ D).after (binds.map fun p => .bind p.1 p.2)).table.isComplete) ↔
      distinct c.operations ∧ ∀ o ∈ c.operations, (c.signature o).isSome) ∧
    (∀ (h : List (Request U κ D)) (i j : Nat) (o : String), i < j →
      c.operations[i]? = some o → c.operations[j]? = some o →
        ((start c : Board U κ D).after h).table.slot? j = none) ∧
    (distinct c.operations → ∀ h : List (Request U κ D), (∀ r ∈ h, r.KeepsSignatures) →
      (((start c : Board U κ D).after h).table.isComplete ↔
        ∀ o ∈ c.operations, ∃ b, .bind o b ∈ h ∧ c.Signs o b.params b.ret)) ∧
    (c.operations = [] → (Table.empty c : Table U κ D).isComplete) := by
  have hbinds : ∀ binds : List (String × Binding U κ D),
      ∀ r ∈ binds.map fun p => Request.bind p.1 p.2, r.KeepsSignatures := by
    intro binds r hr
    obtain ⟨p, -, rfl⟩ := List.mem_map.1 hr
    trivial
  refine ⟨⟨?_, ?_⟩, fun h i j o => slot?_after_start_later c h,
    fun hc h hh => isComplete_after_iff (distinct_iff_nodup.1 hc) hh, fun hc => ?_⟩
  · rintro ⟨binds, hcomplete⟩
    obtain ⟨hnd, hsigned⟩ := wellFormed_of_isComplete (hbinds binds) hcomplete
    exact ⟨distinct_iff_nodup.2 hnd, hsigned⟩
  · rintro ⟨hc, hsigned⟩
    obtain ⟨binds, hall⟩ := exists_binds (κ := κ) (D := D) hsigned
    refine ⟨binds, (isComplete_after_iff (distinct_iff_nodup.1 hc) (hbinds binds)).2 ?_⟩
    intro o ho
    obtain ⟨b, hmem, hs⟩ := hall o ho
    exact ⟨b, List.mem_map.2 ⟨(o, b), hmem, rfl⟩, hs⟩
  · simp [Table.isComplete, Table.empty, hc]

/-- A counter is complete after its two operations were bound, though other bindings were refused.
    A contract that lists a name twice cannot become complete, since the second slot of that name
    stays empty. -/
theorem completes_iff_wellFormed_counter :
    let word : Binding Bench.types Unit Nat := ⟨.tuple [], .base .uint32, fun _ => .done 1⟩
    let same : Binding Bench.types Unit Nat :=
      ⟨.tuple [.base .uint32], .base .uint32, fun args => .done args.1⟩
    let counter := Bench.Key.counter.contract
    let shifty := Bench.Key.shifty.contract
    let h : List (Request Bench.types Unit Nat) :=
      [.bind "add" word, .bind "add" same, .bind "reset" word, .isBound "get", .bind "get" word]
    ((start counter).after h).table.isComplete ∧
      (∀ h : List (Request Bench.types Unit Nat), ((start shifty).after h).table.slot? 2 = none) ∧
      (¬ ∃ binds : List (String × Binding Bench.types Unit Nat),
        ((start shifty).after (binds.map fun p => .bind p.1 p.2)).table.isComplete) ∧
      (Table.empty Bench.Key.nothing.contract : Table Bench.types Unit Nat).isComplete := by
  intro word same counter shifty h
  obtain ⟨-, -, hcounter, -⟩ := completes_iff_wellFormed (κ := Unit) (D := Nat) counter
  obtain ⟨hshifty, hlater, -, -⟩ := completes_iff_wellFormed (κ := Unit) (D := Nat) shifty
  refine ⟨(hcounter (by decide) h (by decide)).2 fun o ho => ?_,
    fun h => hlater h 0 2 "alpha" (by decide) rfl rfl, ?_,
    (completes_iff_wellFormed (κ := Unit) (D := Nat) Bench.Key.nothing.contract).2.2.2 rfl⟩
  · have ho : o = "get" ∨ o = "add" := by
      simpa [counter, Bench.Key.contract, Contract.ofDeclarations, Bench.Key.declarations] using ho
    rcases ho with rfl | rfl
    · exact ⟨word, by simp [h], _, rfl, rfl, rfl⟩
    · exact ⟨same, by simp [h], _, rfl, rfl, rfl⟩
  · rw [hshifty]
    rintro ⟨hdistinct, -⟩
    exact absurd hdistinct (by decide)

end Board

end Switchboard
