/-
  What bindings and calls come to.

  A binding is accepted or refused, and a call is resolved or refused, by the contract and the slot
  of the name alone.  A resolved call is the run of the routine in the slot after the event that
  announces it (`Run.invoked`), a refused one leaves the data as they are (`Run.rejected`).

  * `Contract.Signs`: the signature known for a name has exactly the given types;
  * `bind_cases`: what a binding does to a table and answers;
  * `call_cases`: what a call does and answers;
  * `lookup_unknown_iff`: when the expected text of a mismatch is `<unknown>`.
-/
import Switchboard.Table

namespace Switchboard

variable {U : Universe}

/-! ## Outcomes -/

section
variable {σ α β : Type}

/-- The outcome whose value, if one was returned, is replaced by its image. -/
def Outcome.map (f : α → β) : Outcome α → Outcome β
  | returned a => returned (f a)
  | panicked m => panicked m
  | exhausted => exhausted

theorem Outcome.map_map {γ : Type} (f : α → β) (g : β → γ) (r : Outcome α) :
    (r.map f).map g = r.map fun a => g (f a) := by
  cases r <;> rfl

theorem Outcome.map_eq_returned_iff {f : α → β} {r : Outcome α} {b : β} :
    r.map f = .returned b ↔ ∃ a, r = .returned a ∧ f a = b := by
  cases r <;> simp [map]

/-- Returning the image of what an effect returns changes the value and nothing else. -/
theorem Effect.bind_pure_run (x : Effect σ α) (f : α → β) (s : σ) :
    (x >>= fun a => pure (f a)) s = ⟨(x s).outcome.map f, (x s).state, (x s).events⟩ := by
  rw [Effect.bind_run]
  rcases x s with ⟨o, s', es⟩
  cases o with
  | returned a =>
    show (⟨.returned (f a), s', []⟩ : Run σ β).after es = _
    simp [Run.after, Outcome.map]
  | panicked m => rfl
  | exhausted => rfl

/-- A resolved call: the event that announces it, then the run of its routine. -/
def Run.invoked (contract o : String) (r : Run σ α) : Run σ (Except Failure α) :=
  ⟨r.outcome.map .ok, r.state, .invoking contract o :: r.events⟩

/-- A refused call: the state is as it was, and the refusal is reported. -/
def Run.rejected (contract o : String) (e : Failure) (s : σ) : Run σ (Except Failure α) :=
  ⟨.returned (.error e), s, [.rejected contract o e]⟩

/-- A routine that runs is never taken for a refusal. -/
theorem Outcome.map_ok_ne_error (f : α → β) (r : Outcome α) (e : Failure) :
    (r.map fun a => (.ok (f a) : Except Failure β)) ≠ .returned (.error e) := by
  cases r <;> simp [map]

/-- Replacing the values that are returned leaves the refusals. -/
theorem Outcome.map_map_eq_error_iff {f : α → β} {r : Outcome (Except Failure α)} {e : Failure} :
    (r.map fun v => v.map f) = .returned (.error e) ↔ r = .returned (.error e) := by
  rcases r with (e' | v) | m | _ <;> simp [map, Except.map]

theorem Run.invoked_ne_error (contract o : String) (r : Run σ α) (e : Failure) :
    (r.invoked contract o).outcome ≠ .returned (.error e) :=
  Outcome.map_ok_ne_error id r.outcome e

/-- A resolved call returns what its routine returns. -/
theorem Run.invoked_eq_ok_iff (contract o : String) (r : Run σ α) (v : α) :
    (r.invoked contract o).outcome = .returned (.ok v) ↔ r.outcome = .returned v := by
  rcases r with ⟨outcome, s, es⟩
  cases outcome <;> simp [invoked, Outcome.map]

end

/-! ## Names and signatures -/

/-- No signature is shown as `<unknown>`: its text starts otherwise. -/
theorem Signature.text_ne_unknown (s : Signature U) : s.text ≠ "<unknown>" := by
  intro h
  have := congrArg String.toList h
  simp [text, toString] at this

namespace Contract

/-- The signature known for `o` has exactly the types `A` and `R`. -/
def Signs (c : Contract U) (o : String) (A R : Ty U) : Prop :=
  ∃ s, c.signature o = some s ∧ s.params = A ∧ s.ret = R

instance (c : Contract U) (o : String) (A R : Ty U) : Decidable (c.Signs o A R) :=
  inferInstanceAs (Decidable (∃ s, s ∈ c.signature o ∧ s.params = A ∧ s.ret = R))

variable {c : Contract U} {o o' : String} {A R : Ty U} {i : Nat}

theorem check_iff_signs : c.check o A R = .ok () ↔ c.Signs o A R := check_eq_ok_iff

/-- A name is signed with one pair of types. -/
theorem Signs.unique {A' R' : Ty U} (h : c.Signs o A R) (h' : c.Signs o A' R') :
    A = A' ∧ R = R' := by
  obtain ⟨sig, hsig, rfl, rfl⟩ := h
  obtain ⟨sig', hsig', rfl, rfl⟩ := h'
  obtain rfl : sig = sig' := Option.some.inj (hsig.symm.trans hsig')
  exact ⟨rfl, rfl⟩

/-- Different names have different positions. -/
theorem position?_inj (h : c.position? o = some i) (h' : c.position? o' = some i) : o = o' := by
  have ho := (position?_eq_some_iff.1 h).1
  have ho' := (position?_eq_some_iff.1 h').1
  exact Option.some.inj (ho.symm.trans ho')

/-- Exactly the names that are listed have a position. -/
theorem exists_position?_iff : (∃ i, c.position? o = some i) ↔ o ∈ c.operations := by
  rw [← position?_isSome_iff, Option.isSome_iff_exists]

/-- The expected text of a failed comparison is that of a signature, hence not `<unknown>`. -/
theorem check_ne_unknown (n o' found : String) :
    c.check o A R ≠ .error (.mismatch n o' "<unknown>" found) := by
  intro h
  unfold check at h
  split at h
  · cases h
  · rename_i s hs
    split at h
    · cases h
    · injection h with h
      injection h with _ _ ht _
      exact s.text_ne_unknown ht

end Contract

namespace Table

variable {κ D : Type} {c : Contract U} {t : Table U κ D} {o : String}

/-! ## Bindings -/

/-- **What a binding does.**  A listed name that is signed with the types of the binding gets its
    slot filled, and the event tells whether the slot was filled before; otherwise nothing happens
    but the refusal. -/
theorem bind_cases (c : Contract U) (o : String) (b : Binding U κ D) (t : Table U κ D) :
    (∃ i, c.position? o = some i ∧ c.Signs o b.params b.ret ∧
      bind c o b t =
        ⟨.returned (.ok ()), ⟨t.slots.set i (some b)⟩, [.bound c.name o (t.slot? i).isSome]⟩) ∨
    (¬ (o ∈ c.operations ∧ c.Signs o b.params b.ret) ∧
      ∃ e, bind c o b t = ⟨.returned (.error e), t, []⟩) := by
  unfold bind
  rcases h : t.install c o b with e | ⟨t', replaced⟩
  · refine Or.inr ⟨?_, e, rfl⟩
    rintro ⟨ho, hs⟩
    obtain ⟨i, hi⟩ := Contract.exists_position?_iff.2 ho
    have hok : t.install c o b = .ok (⟨t.slots.set i (some b)⟩, (t.slot? i).isSome) :=
      install_eq_ok_iff.2 ⟨i, hi, Contract.check_iff_signs.2 hs, rfl, rfl⟩
    cases h.symm.trans hok
  · obtain ⟨i, hi, hs, rfl, rfl⟩ := install_eq_ok_iff.1 h
    exact Or.inl ⟨i, hi, Contract.check_iff_signs.1 hs, rfl⟩

/-- A binding is accepted if the name is listed and signed with exactly its types. -/
theorem bind_accepted_iff (b : Binding U κ D) :
    (bind c o b t).outcome = .returned (.ok ()) ↔
      o ∈ c.operations ∧ c.Signs o b.params b.ret := by
  rcases bind_cases c o b t with ⟨i, hi, hs, h⟩ | ⟨hn, e, h⟩
  · rw [h]
    exact iff_of_true rfl ⟨Contract.exists_position?_iff.1 ⟨i, hi⟩, hs⟩
  · rw [h]
    exact iff_of_false (by simp) hn

/-! ## Calls -/

variable {A R : Ty U}

/-- **What a call does.**  If the slot of the name was bound with the types of the call, and these
    are the types signed for the name, the routine in the slot runs; otherwise the call is
    refused. -/
theorem call_cases (c : Contract U) (t : Table U κ D) (dispatch : Dispatch U κ D) (o : String)
    (A R : Ty U) (args : A.Val) (x : D) :
    (∃ i f, c.position? o = some i ∧ t.slot? i = some ⟨A, R, f⟩ ∧ c.Signs o A R ∧
      t.call c dispatch o A R args x = ((f args).exec dispatch x).invoked c.name o) ∨
    (∃ e, t.lookup c o A R = .error e ∧
      t.call c dispatch o A R args x = .rejected c.name o e x) := by
  unfold call
  rcases h : t.lookup c o A R with e | f
  · exact Or.inr ⟨e, rfl, rfl⟩
  · obtain ⟨i, hi, hf, hc⟩ := lookup_eq_ok_iff.1 h
    refine Or.inl ⟨i, f, hi, hf, Contract.check_iff_signs.1 hc, ?_⟩
    simp only [Effect.emit_bind, Effect.bind_pure_run]
    rfl

/-- The call of a name whose slot holds a routine of the signed types runs that routine. -/
theorem call_eq_invoked {i : Nat} {f : A.Val → Routine U κ D R.Val} (hi : c.position? o = some i)
    (hf : t.slot? i = some ⟨A, R, f⟩) (hs : c.Signs o A R) (dispatch : Dispatch U κ D)
    (args : A.Val) (x : D) :
    t.call c dispatch o A R args x = ((f args).exec dispatch x).invoked c.name o := by
  rcases call_cases c t dispatch o A R args x with ⟨j, g, hj, hg, -, h⟩ | ⟨e, he, -⟩
  · obtain rfl : i = j := Option.some.inj (hi.symm.trans hj)
    obtain rfl : f = g := by simpa using hf.symm.trans hg
    exact h
  · have hok := lookup_eq_ok_iff.2 ⟨i, hi, hf, Contract.check_iff_signs.2 hs⟩
    cases he.symm.trans hok

/-- The call of a listed name whose slot is empty is refused as unbound, whatever its types. -/
theorem call_eq_unbound {i : Nat} (hi : c.position? o = some i) (ht : t.slot? i = none)
    (dispatch : Dispatch U κ D) (args : A.Val) (x : D) :
    t.call c dispatch o A R args x = .rejected c.name o (.unbound c.name o) x := by
  have hl : t.lookup c o A R = .error (.unbound c.name o) := by
    simp [lookup, Contract.resolve, hi, ht]
  rw [call, hl]
  rfl

/-- A call is refused for the reason for which nothing was looked up. -/
theorem call_eq_error_iff {dispatch : Dispatch U κ D} {args : A.Val} {x : D} {e : Failure} :
    (t.call c dispatch o A R args x).outcome = .returned (.error e) ↔
      t.lookup c o A R = .error e := by
  rcases call_cases c t dispatch o A R args x with ⟨i, f, hi, hf, hs, h⟩ | ⟨e', he, h⟩
  · have hok := lookup_eq_ok_iff.2 ⟨i, hi, hf, Contract.check_iff_signs.2 hs⟩
    rw [h, hok]
    exact iff_of_false (Run.invoked_ne_error _ _ _ e) (by simp)
  · rw [h, he]
    simp [Run.rejected]

/-- A call is refused with the expected text `<unknown>` if the slot of the name is filled and the
    name is signed with the types of the call, while the slot was bound with others. -/
theorem lookup_unknown_iff :
    (∃ n o' found, t.lookup c o A R = .error (.mismatch n o' "<unknown>" found)) ↔
      ∃ i b, c.position? o = some i ∧ t.slot? i = some b ∧ c.Signs o A R ∧
        ¬ (b.params = A ∧ b.ret = R) := by
  constructor
  · rintro ⟨n, o', found, h⟩
    unfold lookup Contract.resolve at h
    rcases hi : c.position? o with _ | i
    · simp [hi] at h
    · rcases hb : t.slot? i with _ | b
      · simp [hi, hb] at h
      · rcases hc : c.check o A R with e | _
        · simp only [hi, hb, hc, Except.error.injEq] at h
          exact absurd (hc.trans (congrArg _ h)) (Contract.check_ne_unknown n o' found)
        · refine ⟨i, b, rfl, hb, Contract.check_iff_signs.1 hc, fun ht => ?_⟩
          obtain ⟨f, hf⟩ := Option.isSome_iff_exists.1 (Binding.at?_isSome_iff.2 ht)
          simp [hi, hb, hc, hf] at h
  · rintro ⟨i, b, hi, hb, hs, ht⟩
    have hat : b.at? A R = none := by
      rw [← Option.not_isSome_iff_eq_none, Binding.at?_isSome_iff]; exact ht
    refine ⟨c.name, o, (Signature.of A R).text, ?_⟩
    simp [lookup, Contract.resolve, hi, hb, Contract.check_iff_signs.2 hs, hat, Contract.mismatch]

end Table

end Switchboard
