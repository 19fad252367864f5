/-
  Names and their positions.

  Names are compared byte by byte, and different names have different bytes, so that the comparison
  is that of the names themselves.  A name stands for the first position at which it is listed;
  every position is that of the name listed there iff no name is listed twice.

  * `utf8_inj`: the encoding tells names apart;
  * `distinct_iff_nodup`: what `distinct` decides;
  * `Contract.nodup_operations_iff`: distinct names, by positions.
-/
import Switchboard.Contract

namespace Switchboard

variable {U : Universe}

/-! ## Distinct names -/

theorem utf8_toByteArray (s : String) : (utf8 s).toByteArray = s.toByteArray := by
  show s.toList.utf8Encode = s.toByteArray
  rw [← String.toByteArray_ofList, String.ofList_toList]

/-- Different texts have different encodings. -/
theorem utf8_inj {s t : String} : utf8 s = utf8 t ↔ s = t := by
  constructor
  · intro h
    rw [← String.toByteArray_inj, ← utf8_toByteArray, ← utf8_toByteArray, h]
  · rintro rfl
    rfl

/-- The comparison byte by byte is that of the texts. -/
theorem sameBytes_utf8_iff {s t : String} : sameBytes (utf8 s) (utf8 t) ↔ s = t :=
  sameBytes_iff.trans utf8_inj

/-- **Names are distinct iff none occurs twice.** -/
theorem distinct_iff_nodup {names : List String} : distinct names ↔ names.Nodup := by
  induction names with
  | nil => simp [distinct]
  | cons name rest ih =>
    have hhead : (rest.all fun other => !sameBytes (utf8 name) (utf8 other)) ↔ name ∉ rest := by
      rw [List.all_eq_true]
      constructor
      · intro h hmem
        have hsame : sameBytes (utf8 name) (utf8 name) := sameBytes_utf8_iff.2 rfl
        have := h name hmem
        rw [hsame] at this
        cases this
      · intro h other hother
        have hne : ¬ sameBytes (utf8 name) (utf8 other) := by
          rw [sameBytes_utf8_iff]
          rintro rfl
          exact h hother
        rw [Bool.not_eq_true] at hne
        rw [hne]
        rfl
    rw [distinct, Bool.and_eq_true, hhead, ih, List.nodup_cons]

/-! ## Positions -/

namespace Contract

variable {c : Contract U}

/-- A listed name has a position at or before each place where it is listed. -/
theorem exists_position?_le {o : String} {j : Nat} (hj : c.operations[j]? = some o) :
    ∃ i ≤ j, c.position? o = some i := by
  have hlisted : o ∈ c.operations := List.mem_of_getElem? hj
  obtain ⟨i, hi⟩ := Option.isSome_iff_exists.1 (position?_isSome_iff.2 hlisted)
  refine ⟨i, Nat.le_of_not_lt fun hlt => ?_, hi⟩
  exact (position?_eq_some_iff.1 hi).2 j hlt hj

/-- **Names are distinct iff each position is that of the name listed there.** -/
theorem nodup_operations_iff :
    c.operations.Nodup ↔ ∀ i o, c.operations[i]? = some o → c.position? o = some i := by
  constructor
  · intro hnd j o hj
    obtain ⟨i, hij, hi⟩ := exists_position?_le hj
    have hi' := (position?_eq_some_iff.1 hi).1
    obtain rfl : i = j := (List.getElem?_inj (position?_lt hi) hnd).1 (hi'.trans hj.symm)
    exact hi
  · intro h
    rw [List.Nodup, List.pairwise_iff_getElem]
    intro i j hi hj hij heq
    have hpi := h i _ (List.getElem?_eq_getElem hi)
    have hpj := h j _ (List.getElem?_eq_getElem hj)
    rw [heq] at hpi
    have := Option.some.inj (hpi.symm.trans hpj)
    omega

end Contract

end Switchboard
