/-
  What a table tells about itself.

  The queries of a table go through its slots in different ways: by the first position of a name, by
  all positions together with the names listed there, by the slots alone.  They agree because no
  history ever fills a slot but that at the first position of a name (`Table.AtFirst`), and because
  a filled slot stays filled (`Table.Grows`).

  * `mem_boundOperations`, `boundOperations_sublist`, `boundOperations_nodup`: which names are told;
  * `isComplete_iff_boundOperations`: when a table is complete;
  * `boundOperations_mono`: what becomes of the told names as slots are filled;
  * `after_atFirst`, `after_grows`: what histories keep;
  * `QueriesAgree`, `queries_agree`: the queries after any history.
-/
import Switchboard.Bench.Catalog
import Switchboard.Proofs.Table.History

namespace Switchboard

variable {U : Universe}

/-! ## Bound operations -/

namespace Table

variable {κ D : Type} {c : Contract U} {t t' : Table U κ D} {o : String} {i : Nat}

/-- A name is told as bound iff a slot is filled at some place where the name is listed. -/
theorem mem_boundOperations :
    o ∈ t.boundOperations c ↔ ∃ i, c.operations[i]? = some o ∧ (t.slot? i).isSome := by
  simp only [boundOperations, List.mem_map, List.mem_filter]
  constructor
  · rintro ⟨⟨o', b⟩, ⟨hmem, hsome⟩, rfl⟩
    obtain ⟨i, hi⟩ := List.mem_iff_getElem?.1 hmem
    obtain ⟨ho, hb⟩ := List.getElem?_zip_eq_some.1 hi
    refine ⟨i, ho, ?_⟩
    rw [slot?, hb]
    exact hsome
  · rintro ⟨i, ho, hsome⟩
    rcases hb : t.slots[i]? with _ | b
    · simp [slot?, hb] at hsome
    · rw [slot?, hb] at hsome
      have hi : (c.operations.zip t.slots)[i]? = some (o, b) := List.getElem?_zip_eq_some.2 ⟨ho, hb⟩
      exact ⟨(o, b), ⟨List.mem_of_getElem? hi, hsome⟩, rfl⟩

section
variable (hfits : t.slots.length = c.operations.length)
include hfits

/-- The names told as bound are some of the listed ones, in the same order. -/
theorem boundOperations_sublist : (t.boundOperations c).Sublist c.operations := by
  have hzip : (c.operations.zip t.slots).map (·.1) = c.operations :=
    List.map_fst_zip (Nat.le_of_eq hfits.symm)
  have hsub : (t.boundOperations c).Sublist ((c.operations.zip t.slots).map (·.1)) :=
    List.filter_sublist.map _
  rwa [hzip] at hsub

/-- There are as many names told as bound as there are filled slots. -/
theorem boundOperations_length : (t.boundOperations c).length = t.slots.countP (·.isSome) := by
  have hzip : (c.operations.zip t.slots).map (·.2) = t.slots :=
    List.map_snd_zip (Nat.le_of_eq hfits)
  calc (t.boundOperations c).length
      = (c.operations.zip t.slots).countP (·.2.isSome) := by
        rw [boundOperations, List.length_map, ← List.countP_eq_length_filter]
    _ = ((c.operations.zip t.slots).map (·.2)).countP (·.isSome) := by rw [List.countP_map]; rfl
    _ = t.slots.countP (·.isSome) := by rw [hzip]

/-- A table is complete iff the slot at every place of the list is filled. -/
theorem isComplete_iff :
    t.isComplete ↔ ∀ i o, c.operations[i]? = some o → (t.slot? i).isSome := by
  rw [isComplete, List.all_eq_true]
  constructor
  · intro h i o ho
    have hi : i < t.slots.length := by
      rw [hfits]
      exact (List.getElem?_eq_some_iff.1 ho).1
    have hslot := h _ (List.getElem_mem hi)
    rw [slot?, List.getElem?_eq_getElem hi]
    exact hslot
  · intro h b hb
    obtain ⟨i, hi, rfl⟩ := List.mem_iff_getElem.1 hb
    have hslot := h i _ (List.getElem?_eq_getElem (hfits ▸ hi))
    rw [slot?, List.getElem?_eq_getElem hi] at hslot
    exact hslot

/-- A table is complete iff it tells all listed names as bound. -/
theorem isComplete_iff_boundOperations :
    t.isComplete ↔ t.boundOperations c = c.operations := by
  have hcount : t.isComplete ↔ t.slots.countP (·.isSome) = t.slots.length := by
    rw [isComplete, List.all_eq_true, List.countP_eq_length]
  rw [hcount, ← boundOperations_length hfits, hfits]
  constructor
  · exact (boundOperations_sublist hfits).eq_of_length
  · intro h
    rw [h]

end

/-! ## First positions -/

/-- Each filled slot stands at the first position of a name. -/
def AtFirst (c : Contract U) (t : Table U κ D) : Prop :=
  ∀ i, (t.slot? i).isSome → ∃ o, c.position? o = some i

theorem atFirst_empty (c : Contract U) : (empty c : Table U κ D).AtFirst c := by
  intro i hi
  rw [slot?_empty] at hi
  cases hi

/-- Filling the slot at the position of a name keeps filled slots at first positions. -/
theorem AtFirst.set (ht : t.AtFirst c) (hi : c.position? o = some i) (b : Binding U κ D) :
    (⟨t.slots.set i (some b)⟩ : Table U κ D).AtFirst c := by
  intro j hj
  obtain ⟨b', hb'⟩ := Option.isSome_iff_exists.1 hj
  rcases slot?_set_cases hb' with ⟨rfl, -⟩ | hb'
  · exact ⟨o, hi⟩
  · exact ht j (by rw [hb']; rfl)

/-- A filled slot stands at the position of the name that is listed there. -/
theorem AtFirst.position? (ht : t.AtFirst c) (ho : c.operations[i]? = some o)
    (hi : (t.slot? i).isSome) : c.position? o = some i := by
  obtain ⟨o', hi'⟩ := ht i hi
  have ho' := (Contract.position?_eq_some_iff.1 hi').1
  obtain rfl : o = o' := Option.some.inj (ho.symm.trans ho')
  exact hi'

/-- No name is told as bound twice, though it may be listed twice. -/
theorem boundOperations_nodup (ht : t.AtFirst c) : (t.boundOperations c).Nodup := by
  rw [boundOperations, List.Nodup, List.pairwise_map, List.pairwise_filter,
    List.pairwise_iff_getElem]
  intro i j hi hj hij hsi hsj heq
  simp only [List.getElem_zip] at hsi hsj heq
  -- two filled slots with one name would both stand at its first position
  obtain ⟨hio, his⟩ := Nat.lt_min.1 (List.length_zip ▸ hi)
  obtain ⟨hjo, hjs⟩ := Nat.lt_min.1 (List.length_zip ▸ hj)
  have hpi : c.position? c.operations[i] = some i := by
    refine ht.position? (List.getElem?_eq_getElem hio) ?_
    rw [slot?, List.getElem?_eq_getElem his]
    exact hsi
  have hpj : c.position? c.operations[j] = some j := by
    refine ht.position? (List.getElem?_eq_getElem hjo) ?_
    rw [slot?, List.getElem?_eq_getElem hjs]
    exact hsj
  rw [heq] at hpi
  have := Option.some.inj (hpi.symm.trans hpj)
  omega

/-- A name is bound iff the slot at its position is filled. -/
theorem isBound_eq_true_iff :
    t.isBound c o = .ok true ↔ ∃ i, c.position? o = some i ∧ (t.slot? i).isSome := by
  rw [isBound, Contract.resolve]
  rcases c.position? o with _ | i
  · simp [Except.map]
  · simp [Except.map]

/-- With filled slots at first positions only, the names told as bound are those that are bound. -/
theorem mem_boundOperations_iff_isBound (ht : t.AtFirst c) :
    o ∈ t.boundOperations c ↔ t.isBound c o = .ok true := by
  rw [mem_boundOperations, isBound_eq_true_iff]
  constructor
  · rintro ⟨i, ho, hi⟩
    exact ⟨i, ht.position? ho hi, hi⟩
  · rintro ⟨i, hi, hsome⟩
    exact ⟨i, (Contract.position?_eq_some_iff.1 hi).1, hsome⟩

/-! ## Growing tables -/

/-- The second table has as many slots, and what is filled in the first is filled in it. -/
def Grows (t t' : Table U κ D) : Prop :=
  t.slots.length = t'.slots.length ∧ ∀ i, (t.slot? i).isSome → (t'.slot? i).isSome

theorem Grows.refl (t : Table U κ D) : t.Grows t := ⟨rfl, fun _ => id⟩

theorem Grows.trans {t'' : Table U κ D} (h : t.Grows t') (h' : t'.Grows t'') : t.Grows t'' :=
  ⟨h.1.trans h'.1, fun i hi => h'.2 i (h.2 i hi)⟩

theorem grows_set (t : Table U κ D) (i : Nat) (b : Binding U κ D) :
    t.Grows ⟨t.slots.set i (some b)⟩ := by
  refine ⟨List.length_set.symm, fun j hj => ?_⟩
  by_cases hij : i = j
  · subst hij
    by_cases hi : i < t.slots.length
    · rw [slot?_set_self hi]
      rfl
    · rw [List.set_eq_of_length_le (Nat.le_of_not_lt hi)]
      exact hj
  · rw [slot?_set_other t hij]
    exact hj

/-- As slots are filled, told names stay and keep their order. -/
theorem boundOperations_mono (h : t.Grows t') :
    (t.boundOperations c).Sublist (t'.boundOperations c) := by
  obtain ⟨slots⟩ := t
  obtain ⟨slots'⟩ := t'
  obtain ⟨hlen, hfilled⟩ := h
  simp only [slot?] at hlen hfilled
  simp only [boundOperations]
  -- along the list of names, with the slots that stand beside it
  induction c.operations generalizing slots slots' with
  | nil => exact List.Sublist.refl _
  | cons o names ih =>
    rcases slots with _ | ⟨x, slots⟩ <;> rcases slots' with _ | ⟨x', slots'⟩
    · exact List.Sublist.refl _
    · cases hlen
    · cases hlen
    · have hrest := ih slots slots' (Nat.succ.inj hlen) fun i hi => hfilled (i + 1) hi
      have hhead : x.isSome → x'.isSome := hfilled 0
      simp only [List.zip_cons_cons, List.filter_cons]
      by_cases hx : x.isSome
      · rw [if_pos hx, if_pos (hhead hx)]
        exact hrest.cons_cons o
      · rw [if_neg hx]
        by_cases hx' : x'.isSome
        · rw [if_pos hx']
          exact hrest.cons o
        · rw [if_neg hx']
          exact hrest

end Table

/-! ## Histories -/

namespace Board

variable {κ D : Type} {s : Board U κ D}

theorem after_fits (hs : s.Fits) (h : List (Request U κ D)) : (s.after h).Fits := by
  induction h generalizing s with
  | nil => exact hs
  | cons r h ih => exact ih (step_fits hs r)

theorem step_atFirst (hs : s.table.AtFirst s.contract) (r : Request U κ D) :
    (s.step r).2.table.AtFirst (s.step r).2.contract := by
  rcases s.step_cases r with ⟨o, b, i, -, hi, -, -, h⟩ | ⟨-, signature, h⟩
  · rw [h]
    exact hs.set hi b
  · rw [h]
    exact hs

/-- **No history fills a slot but that at the first position of a name.** -/
theorem after_atFirst (hs : s.table.AtFirst s.contract) (h : List (Request U κ D)) :
    (s.after h).table.AtFirst (s.after h).contract := by
  induction h generalizing s with
  | nil => exact hs
  | cons r h ih => exact ih (step_atFirst hs r)

theorem step_grows (s : Board U κ D) (r : Request U κ D) : s.table.Grows (s.step r).2.table := by
  rcases s.step_cases r with ⟨o, b, i, -, -, -, -, h⟩ | ⟨-, signature, h⟩
  · rw [h]
    exact Table.grows_set _ i b
  · rw [h]
    exact Table.Grows.refl _

/-- **In no history does a filled slot become empty.** -/
theorem after_grows (s : Board U κ D) (h : List (Request U κ D)) :
    s.table.Grows (s.after h).table := by
  induction h generalizing s with
  | nil => exact Table.Grows.refl _
  | cons r h ih => exact (s.step_grows r).trans (ih _)

/-- The names told as bound on a board. -/
def boundOperations (s : Board U κ D) : List String :=
  s.table.boundOperations s.contract

/-- Only the list of names matters to what is told as bound, and that stays. -/
theorem boundOperations_after (s : Board U κ D) (h : List (Request U κ D)) :
    (s.after h).boundOperations = (s.after h).table.boundOperations s.contract := by
  simp only [boundOperations, Table.boundOperations, after_operations]

theorem start_atFirst (c : Contract U) :
    (start c : Board U κ D).table.AtFirst (start c : Board U κ D).contract :=
  Table.atFirst_empty c

/-- After a history from an empty table on, a name is bound iff some binding of it was accepted. -/
theorem isBound_after_start_iff (c : Contract U) (h : List (Request U κ D)) (o : String) :
    let s := (start c : Board U κ D).after h
    s.table.isBound s.contract o = .ok true ↔ (start c : Board U κ D).accepted h o ≠ [] := by
  intro s
  rw [Table.isBound_eq_true_iff, ← List.getLast?_isSome]
  constructor
  · rintro ⟨i, hi, hsome⟩
    rw [slot?_after_start hi] at hsome
    exact hsome
  · intro hsome
    obtain ⟨b, hb⟩ := Option.isSome_iff_exists.1 hsome
    obtain ⟨i, hi, hslot⟩ := exists_slot?_of_lastAccepted hb
    exact ⟨i, hi, by rw [hslot]; rfl⟩

/-- What the queries tell of a table that started empty under `c` and is now on the board `s`, after
    the history `h`. -/
structure QueriesAgree (c : Contract U) (h : List (Request U κ D)) (s : Board U κ D) : Prop where
  size : s.table.size = c.operations.length
  resolve_lt : ∀ o i, s.contract.resolve o = .ok i → i < s.table.slots.length
  /-- A filled slot stands at the first position of a name. -/
  atFirst : ∀ i, (s.table.slot? i).isSome → ∃ o, c.position? o = some i
  sublist : s.boundOperations.Sublist c.operations
  nodup : s.boundOperations.Nodup
  mem_iff_isBound : ∀ o, o ∈ s.boundOperations ↔ s.table.isBound s.contract o = .ok true
  mem_iff_accepted : ∀ o, o ∈ s.boundOperations ↔ (start c : Board U κ D).accepted h o ≠ []
  isComplete_iff : s.table.isComplete ↔ s.boundOperations = c.operations
  /-- Filled slots stay filled as the history goes on. -/
  filled : ∀ (h' : List (Request U κ D)) i, (s.table.slot? i).isSome →
    (((start c : Board U κ D).after (h ++ h')).table.slot? i).isSome
  /-- The names told before are told again, in the same order. -/
  later : ∀ h' : List (Request U κ D),
    s.boundOperations.Sublist ((start c : Board U κ D).after (h ++ h')).boundOperations

/-- **The queries of a table agree.**  After any history of a table that started empty, with any
    contract and any changes of its signatures, there is one slot per listed name, every position
    of a name is that of a slot, and each filled slot stands at the first position of a name.  So
    the names told as bound are some of the listed ones, in order and without repetition; they are
    those that are bound, which are those of which a binding was accepted; and the table is complete
    iff they are all the listed ones.  As the history goes on, filled slots stay filled, and the
    names told before are told again in the same order. -/
theorem queries_agree (c : Contract U) (h : List (Request U κ D)) :
    QueriesAgree c h ((start c).after h) := by
  have hops : ((start c : Board U κ D).after h).contract.operations = c.operations :=
    after_operations _ h
  have hfits : ((start c : Board U κ D).after h).Fits := after_fits (start_fits c) h
  have hfirst := after_atFirst (start_atFirst (κ := κ) (D := D) c) h
  have hmem := fun o => Table.mem_boundOperations_iff_isBound (o := o) hfirst
  refine {
    size := hfits.trans (congrArg _ hops)
    resolve_lt := fun o i hi => ?_
    atFirst := fun i hi => ?_
    sublist := hops ▸ Table.boundOperations_sublist hfits
    nodup := Table.boundOperations_nodup hfirst
    mem_iff_isBound := hmem
    mem_iff_accepted := fun o => (hmem o).trans (isBound_after_start_iff c h o)
    isComplete_iff := hops ▸ Table.isComplete_iff_boundOperations hfits
    filled := fun h' => ?_
    later := fun h' => ?_ }
  · rw [hfits]
    exact Contract.position?_lt (Contract.resolve_eq_ok_iff.1 hi)
  · obtain ⟨o, ho⟩ := hfirst i hi
    rw [after_position?] at ho
    exact ⟨o, ho⟩
  · rw [after_append]
    exact (after_grows _ h').2
  · rw [after_append, boundOperations_after (after _ h)]
    exact Table.boundOperations_mono (after_grows _ h')

/-- A contract that lists a name twice: the second slot of the name stays empty, so that the table
    is not complete, and an operation bound later takes its place among those bound before. -/
theorem queries_agree_shifty :
    let c := Bench.Key.shifty.contract
    let word : Binding Bench.types Unit Nat := ⟨.tuple [], .base .uint32, fun _ => .done 1⟩
    let flag : Binding Bench.types Unit Nat := ⟨.tuple [], .base .bool, fun _ => .done true⟩
    let text : Binding Bench.types Unit Nat := ⟨.tuple [], .text, fun _ => .done "x"⟩
    let h : List (Request Bench.types Unit Nat) :=
      [.bind "ünï" flag, .bind "alpha" word, .bind "beta" word]
    let h' : List (Request Bench.types Unit Nat) :=
      [.bind "" text, .declare fun _ => none, .bind "ünï" flag]
    let s := (start c).after h
    let s' := (start c).after (h ++ h')
    s.table.boundOperations s.contract = ["alpha", "ünï"] ∧
      s.contract.resolve "ünï" = .ok 4 ∧ 4 < s.table.slots.length ∧
      (s.table.slot? 4).isSome ∧ (s'.table.slot? 4).isSome ∧
      "ünï" ∈ s.table.boundOperations s.contract ∧ ¬ s.table.isComplete ∧
      ["alpha", "ünï"].Sublist (s'.table.boundOperations s'.contract) := by
  intro c word flag text h h' s s'
  have hqueries := queries_agree c h
  have hbound : s.table.boundOperations s.contract = ["alpha", "ünï"] := rfl
  have hresolve : s.contract.resolve "ünï" = .ok 4 := rfl
  have hslot : (s.table.slot? 4).isSome := rfl
  refine ⟨hbound, hresolve, hqueries.resolve_lt "ünï" 4 hresolve, hslot, hqueries.filled h' 4 hslot,
    (hqueries.mem_iff_isBound "ünï").2 rfl, fun hs => ?_, hqueries.later h'⟩
  have hall : s.table.boundOperations s.contract = c.operations := hqueries.isComplete_iff.1 hs
  rw [hbound] at hall
  exact absurd hall (by decide)

end Board

end Switchboard
