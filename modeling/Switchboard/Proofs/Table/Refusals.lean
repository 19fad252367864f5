/-
  Why bindings and calls are refused.

  Binding and calling make the same checks in different orders.  A binding asks for the name and
  then for the signature; what the table holds plays no part.  A call asks for the name, then for
  the slot, then for the signature, and last for the types with which the slot was bound.  So a name
  that is listed and not signed looks undeclared to a binding, and to a call it looks unbound as
  long as its slot is empty.

  * `Contract.RefusesBinding`, `Table.RefusesCall`: the refusals as relations, one rule per check;
  * `install_eq_error_iff`, `lookup_eq_error_iff`: the checks in order refuse by these rules;
  * `BindingAnswer`, `CallAnswer`, `refusals_classified`: which failure a binding or a call is
    answered by.
-/
import Switchboard.Bench.Catalog
import Switchboard.Proofs.Table.Calls

namespace Switchboard

variable {U : Universe}

/-! ## Bindings -/

namespace Contract

variable {c : Contract U} {o : String} {A R : Ty U} {e : Failure}

theorem resolve_eq_error_iff :
    c.resolve o = .error e ↔ o ∉ c.operations ∧ e = .violation c.name o := by
  rw [← position?_isSome_iff]
  unfold resolve
  cases c.position? o <;> simp [eq_comm]

/-- A comparison of types fails if the name is not signed, or is signed with others. -/
theorem check_eq_error_iff :
    c.check o A R = .error e ↔
      (c.signature o = none ∧ e = .violation c.name o) ∨
      ∃ s, c.signature o = some s ∧ ¬ (s.params = A ∧ s.ret = R) ∧
        e = .mismatch c.name o s.text (Signature.of A R).text := by
  unfold check
  rcases hs : c.signature o with _ | s
  · simp [eq_comm]
  · by_cases h : s.agrees (.of A R)
    · simp [h, Signature.agrees_of_iff.1 h]
    · simp only [if_neg h]
      constructor
      · rintro ⟨⟩
        exact Or.inr ⟨s, rfl, mt Signature.agrees_of_iff.2 h, rfl⟩
      · rintro (⟨⟨⟩, -⟩ | ⟨s', ⟨⟩, -, rfl⟩)
        rfl

/-- The failures with which a binding of `o` at the types `A` and `R` is refused. -/
inductive RefusesBinding (c : Contract U) (o : String) (A R : Ty U) : Failure → Prop
  | unlisted (ho : o ∉ c.operations) : RefusesBinding c o A R (.violation c.name o)
  | unsigned (ho : o ∈ c.operations) (hs : c.signature o = none) :
      RefusesBinding c o A R (.violation c.name o)
  | types {s : Signature U} (ho : o ∈ c.operations) (hs : c.signature o = some s)
      (hne : ¬ (s.params = A ∧ s.ret = R)) :
      RefusesBinding c o A R (.mismatch c.name o s.text (Signature.of A R).text)

theorem refusesBinding_violation_iff :
    c.RefusesBinding o A R (.violation c.name o) ↔ o ∉ c.operations ∨ c.signature o = none := by
  constructor
  · intro h
    cases h with
    | unlisted ho => exact Or.inl ho
    | unsigned ho hs => exact Or.inr hs
  · intro h
    by_cases ho : o ∈ c.operations
    · exact .unsigned ho (h.resolve_left fun hn => hn ho)
    · exact .unlisted ho

theorem refusesBinding_mismatch_iff :
    (∃ expected, c.RefusesBinding o A R (.mismatch c.name o expected (Signature.of A R).text)) ↔
      o ∈ c.operations ∧ ∃ s, c.signature o = some s ∧ ¬ (s.params = A ∧ s.ret = R) := by
  constructor
  · rintro ⟨expected, h⟩
    cases h with
    | types ho hs hne => exact ⟨ho, _, hs, hne⟩
  · rintro ⟨ho, s, hs, hne⟩
    exact ⟨s.text, .types ho hs hne⟩

end Contract

theorem Binding.at?_eq_none_iff {κ D : Type} {b : Binding U κ D} {A R : Ty U} :
    b.at? A R = none ↔ ¬ (b.params = A ∧ b.ret = R) := by
  rw [← at?_isSome_iff, Option.not_isSome_iff_eq_none]

namespace Table

variable {κ D : Type} {c : Contract U} {t : Table U κ D} {o : String} {A R : Ty U}
  {e : Failure}

theorem install_eq_error_iff {b : Binding U κ D} :
    t.install c o b = .error e ↔ c.RefusesBinding o b.params b.ret e := by
  unfold install
  constructor
  · intro h
    rcases hi : c.resolve o with e' | i
    · obtain ⟨ho, rfl⟩ := Contract.resolve_eq_error_iff.1 hi
      simp only [hi] at h
      cases h
      exact .unlisted ho
    · have ho : o ∈ c.operations :=
        Contract.exists_position?_iff.1 ⟨i, Contract.resolve_eq_ok_iff.1 hi⟩
      rcases hc : c.check o b.params b.ret with e' | _
      · simp only [hi, hc] at h
        cases h
        rcases Contract.check_eq_error_iff.1 hc with ⟨hs, rfl⟩ | ⟨s, hs, hne, rfl⟩
        · exact .unsigned ho hs
        · exact .types ho hs hne
      · simp only [hi, hc] at h
        cases h
  · rintro (ho | ⟨ho, hs⟩ | ⟨ho, hs, hne⟩)
    · simp only [Contract.resolve_eq_error_iff.2 ⟨ho, rfl⟩]
    · obtain ⟨i, hi⟩ := Contract.exists_position?_iff.2 ho
      simp only [Contract.resolve_eq_ok_iff.2 hi,
        Contract.check_eq_error_iff.2 (Or.inl ⟨hs, rfl⟩)]
    · obtain ⟨i, hi⟩ := Contract.exists_position?_iff.2 ho
      simp only [Contract.resolve_eq_ok_iff.2 hi,
        Contract.check_eq_error_iff.2 (Or.inr ⟨_, hs, hne, rfl⟩)]

/-- A binding is refused for the reason for which nothing was installed. -/
theorem bind_eq_error_iff {b : Binding U κ D} :
    (bind c o b t).outcome = .returned (.error e) ↔ c.RefusesBinding o b.params b.ret e := by
  rw [← install_eq_error_iff (t := t)]
  unfold bind
  rcases t.install c o b with e' | ⟨t', replaced⟩ <;> simp

/-! ## Calls -/

/-- The slot of `o` is there and empty. -/
def Vacant (c : Contract U) (t : Table U κ D) (o : String) : Prop :=
  ∃ i, c.position? o = some i ∧ t.slots[i]? = some none

/-- The slot of `o` holds the binding `b`. -/
def Holds (c : Contract U) (t : Table U κ D) (o : String) (b : Binding U κ D) : Prop :=
  ∃ i, c.position? o = some i ∧ t.slots[i]? = some (some b)

theorem slot?_eq_some_iff {i : Nat} {b : Binding U κ D} :
    t.slot? i = some b ↔ t.slots[i]? = some (some b) := by
  unfold slot?
  rcases t.slots[i]? with _ | _ | b' <;> simp

theorem slot?_eq_none_iff {i : Nat} (hi : i < t.slots.length) :
    t.slot? i = none ↔ t.slots[i]? = some none := by
  rw [slot?, List.getElem?_eq_getElem hi]
  simp

theorem Vacant.listed (h : t.Vacant c o) : o ∈ c.operations := by
  obtain ⟨i, hi, -⟩ := h
  exact Contract.exists_position?_iff.1 ⟨i, hi⟩

/-- The failures with which a call of `o` at the types `A` and `R` is refused. -/
inductive RefusesCall (c : Contract U) (t : Table U κ D) (o : String) (A R : Ty U) :
    Failure → Prop
  | unlisted (ho : o ∉ c.operations) : RefusesCall c t o A R (.violation c.name o)
  | vacant (ho : t.Vacant c o) : RefusesCall c t o A R (.unbound c.name o)
  | unsigned {b : Binding U κ D} (hb : t.Holds c o b) (hs : c.signature o = none) :
      RefusesCall c t o A R (.violation c.name o)
  | types {b : Binding U κ D} {s : Signature U} (hb : t.Holds c o b) (hs : c.signature o = some s)
      (hne : ¬ (s.params = A ∧ s.ret = R)) :
      RefusesCall c t o A R (.mismatch c.name o s.text (Signature.of A R).text)
  | bound {b : Binding U κ D} (hb : t.Holds c o b) (hs : c.Signs o A R)
      (hne : ¬ (b.params = A ∧ b.ret = R)) :
      RefusesCall c t o A R (.mismatch c.name o "<unknown>" (Signature.of A R).text)

theorem refusesCall_violation_iff :
    t.RefusesCall c o A R (.violation c.name o) ↔
      o ∉ c.operations ∨ (∃ b, t.Holds c o b) ∧ c.signature o = none := by
  constructor
  · intro h
    cases h with
    | unlisted ho => exact Or.inl ho
    | unsigned hb hs => exact Or.inr ⟨⟨_, hb⟩, hs⟩
  · rintro (ho | ⟨⟨b, hb⟩, hs⟩)
    · exact .unlisted ho
    · exact .unsigned hb hs

theorem refusesCall_unbound_iff :
    t.RefusesCall c o A R (.unbound c.name o) ↔ t.Vacant c o := by
  constructor
  · intro h
    cases h with
    | vacant hv => exact hv
  · exact .vacant

theorem refusesCall_mismatch_iff :
    (∃ expected, t.RefusesCall c o A R (.mismatch c.name o expected (Signature.of A R).text)) ↔
      ∃ b s, t.Holds c o b ∧ c.signature o = some s ∧
        (¬ (s.params = A ∧ s.ret = R) ∨ ¬ (b.params = A ∧ b.ret = R)) := by
  constructor
  · rintro ⟨expected, h⟩
    cases h with
    | types hb hs hne => exact ⟨_, _, hb, hs, Or.inl hne⟩
    | bound hb hs hne =>
      obtain ⟨s, hs, -⟩ := hs
      exact ⟨_, s, hb, hs, Or.inr hne⟩
  · rintro ⟨b, s, hb, hs, hne⟩
    -- the signature is compared first, so that its text is the one shown if both differ
    by_cases htypes : s.params = A ∧ s.ret = R
    · exact ⟨_, .bound hb ⟨s, hs, htypes⟩ (hne.resolve_left fun h => h htypes)⟩
    · exact ⟨_, .types hb hs htypes⟩

/-- **The checks of a call refuse by the rules**, in a table with one slot per listed name. -/
theorem lookup_eq_error_iff (ht : t.slots.length = c.operations.length) :
    t.lookup c o A R = .error e ↔ t.RefusesCall c o A R e := by
  unfold lookup
  constructor
  · intro h
    rcases hi : c.resolve o with e' | i
    · obtain ⟨ho, rfl⟩ := Contract.resolve_eq_error_iff.1 hi
      simp only [hi] at h
      cases h
      exact .unlisted ho
    · have hpos := Contract.resolve_eq_ok_iff.1 hi
      rcases hb : t.slot? i with _ | b
      · simp only [hi, hb] at h
        cases h
        exact .vacant ⟨i, hpos, slot?_eq_none_iff (ht ▸ Contract.position?_lt hpos) |>.1 hb⟩
      · have hholds : t.Holds c o b := ⟨i, hpos, slot?_eq_some_iff.1 hb⟩
        rcases hc : c.check o A R with e' | _
        · simp only [hi, hb, hc] at h
          cases h
          rcases Contract.check_eq_error_iff.1 hc with ⟨hs, rfl⟩ | ⟨s, hs, hne, rfl⟩
          · exact .unsigned hholds hs
          · exact .types hholds hs hne
        · rcases hat : b.at? A R with _ | f
          · simp only [hi, hb, hc, hat] at h
            cases h
            exact .bound hholds (Contract.check_iff_signs.1 hc) (Binding.at?_eq_none_iff.1 hat)
          · simp only [hi, hb, hc, hat] at h
            cases h
  · rintro (ho | ⟨i, hi, hv⟩ | ⟨⟨i, hi, hb⟩, hs⟩ | ⟨⟨i, hi, hb⟩, hs, hne⟩ |
      ⟨⟨i, hi, hb⟩, hs, hne⟩)
    · simp only [Contract.resolve_eq_error_iff.2 ⟨ho, rfl⟩]
    · have hlt : i < t.slots.length := ht ▸ Contract.position?_lt hi
      simp only [Contract.resolve_eq_ok_iff.2 hi, (slot?_eq_none_iff hlt).2 hv]
    · simp only [Contract.resolve_eq_ok_iff.2 hi, slot?_eq_some_iff.2 hb,
        Contract.check_eq_error_iff.2 (Or.inl ⟨hs, rfl⟩)]
    · simp only [Contract.resolve_eq_ok_iff.2 hi, slot?_eq_some_iff.2 hb,
        Contract.check_eq_error_iff.2 (Or.inr ⟨_, hs, hne, rfl⟩)]
    · simp only [Contract.resolve_eq_ok_iff.2 hi, slot?_eq_some_iff.2 hb,
        Contract.check_iff_signs.2 hs, Binding.at?_eq_none_iff.2 hne]
      rfl

/-- How a binding of `o` at the types `A` and `R` is answered. -/
structure BindingAnswer (c : Contract U) (o : String) (A R : Ty U)
    (answer : Outcome (Except Failure Unit)) : Prop where
  violation : answer = .returned (.error (.violation c.name o)) ↔
    o ∉ c.operations ∨ c.signature o = none
  mismatch : (∃ expected, answer =
      .returned (.error (.mismatch c.name o expected (Signature.of A R).text))) ↔
    o ∈ c.operations ∧ ∃ s, c.signature o = some s ∧ ¬ (s.params = A ∧ s.ret = R)
  accepted : answer = .returned (.ok ()) ↔
    o ∈ c.operations ∧ ∃ s, c.signature o = some s ∧ s.params = A ∧ s.ret = R
  /-- There is no other failure, and a mismatch shows the signature as expected. -/
  failure : ∀ e, answer = .returned (.error e) → e = .violation c.name o ∨
    ∃ s, c.signature o = some s ∧ e = .mismatch c.name o s.text (Signature.of A R).text

/-- How a call of `o` at the types `A` and `R` through the table `t` is answered. -/
structure CallAnswer (c : Contract U) (t : Table U κ D) (dispatch : Dispatch U κ D) (o : String)
    (A R : Ty U) (args : A.Val) (x : D) (call : Run D (Except Failure R.Val)) : Prop where
  violation : call.outcome = .returned (.error (.violation c.name o)) ↔
    o ∉ c.operations ∨ (∃ b, t.Holds c o b) ∧ c.signature o = none
  unbound : call.outcome = .returned (.error (.unbound c.name o)) ↔
    o ∈ c.operations ∧ t.Vacant c o
  mismatch : (∃ expected, call.outcome =
      .returned (.error (.mismatch c.name o expected (Signature.of A R).text))) ↔
    ∃ b s, t.Holds c o b ∧ c.signature o = some s ∧
      (¬ (s.params = A ∧ s.ret = R) ∨ ¬ (b.params = A ∧ b.ret = R))
  /-- There is no other failure, and a mismatch shows the signature as expected, or `<unknown>` if
      that agrees. -/
  failure : ∀ e, call.outcome = .returned (.error e) →
    e = .violation c.name o ∨ e = .unbound c.name o ∨ ∃ s, c.signature o = some s ∧
      e = .mismatch c.name o (if s.params = A ∧ s.ret = R then "<unknown>" else s.text)
        (Signature.of A R).text
  /-- Without a failure it runs the routine in the slot. -/
  runs : (∀ e, call.outcome ≠ .returned (.error e)) → ∃ f, t.Holds c o ⟨A, R, f⟩ ∧
    (∃ s, c.signature o = some s ∧ s.params = A ∧ s.ret = R) ∧
    call = ((f args).exec dispatch x).invoked c.name o

/-- **Which failure a binding or a call is answered by.**  Take any contract, any table with one slot
    per listed name, whatever the slots hold, any name and any types.  A binding violates the contract
    iff the name is not listed or not signed, mismatches iff it is listed and signed with other types,
    and is accepted otherwise.  A call violates the contract iff the name is not listed, or its slot
    is filled and the name is not signed; it is unbound iff the name is listed and its slot is empty,
    whatever the types and the signature; it mismatches iff the slot is filled and the name is signed,
    with the signed or the bound types other than those of the call; otherwise it runs the routine in
    the slot.  Every failure names the contract and the name that was asked for; a mismatch shows the
    types asked for as found, and as expected the signature, or `<unknown>` if that agrees. -/
theorem refusals_classified (c : Contract U) (t : Table U κ D)
    (ht : t.slots.length = c.operations.length) (o : String) (A R : Ty U) :
    (∀ f : A.Val → Routine U κ D R.Val, BindingAnswer c o A R (bind c o ⟨A, R, f⟩ t).outcome) ∧
    ∀ (dispatch : Dispatch U κ D) (args : A.Val) (x : D),
      CallAnswer c t dispatch o A R args x (t.call c dispatch o A R args x) := by
  refine ⟨fun f => ?_, fun dispatch args x => ?_⟩
  · have hanswer : ∀ e, (bind c o ⟨A, R, f⟩ t).outcome = .returned (.error e) ↔
        c.RefusesBinding o A R e := fun e => bind_eq_error_iff
    refine {
      violation := (hanswer _).trans Contract.refusesBinding_violation_iff
      mismatch := ?_
      accepted := bind_accepted_iff _
      failure := fun e he => ?_ }
    · simp only [hanswer]
      exact Contract.refusesBinding_mismatch_iff
    · rcases (hanswer e).1 he with _ | _ | ⟨-, hs, -⟩
      · exact Or.inl rfl
      · exact Or.inl rfl
      · exact Or.inr ⟨_, hs, rfl⟩
  · have hcall : ∀ e, (t.call c dispatch o A R args x).outcome = .returned (.error e) ↔
        t.RefusesCall c o A R e := fun e => call_eq_error_iff.trans (lookup_eq_error_iff ht)
    refine {
      violation := (hcall _).trans refusesCall_violation_iff
      unbound := ?_
      mismatch := ?_
      failure := fun e he => ?_
      runs := fun hn => ?_ }
    · rw [hcall, refusesCall_unbound_iff, and_iff_right_of_imp Vacant.listed]
    · simp only [hcall]
      exact refusesCall_mismatch_iff
    · rcases (hcall e).1 he with _ | _ | _ | ⟨-, hs, hne⟩ | ⟨-, ⟨s, hs, htypes⟩, -⟩
      · exact Or.inl rfl
      · exact Or.inr (Or.inl rfl)
      · exact Or.inl rfl
      · exact Or.inr (Or.inr ⟨_, hs, by rw [if_neg hne]⟩)
      · exact Or.inr (Or.inr ⟨s, hs, by rw [if_pos htypes]⟩)
    · rcases call_cases c t dispatch o A R args x with ⟨i, f, hi, hf, hs, h⟩ | ⟨e, -, h⟩
      · exact ⟨f, ⟨i, hi, slot?_eq_some_iff.1 hf⟩, hs, h⟩
      · exact absurd (congrArg Run.outcome h) (hn e)

/-- One contract and one table that show all refusals of a call: a slot bound with other types than
    the signed ones, an empty slot, and a filled slot whose name lost its signature.  A binding of
    the last is refused for the same reason, and one of the empty slot for its types. -/
theorem refusals_classified_shifty :
    let c := Bench.Key.shifty.contract.redeclare "ünï" none
    let flag : Binding Bench.types Unit Nat := ⟨.tuple [], .base .bool, fun _ => .done true⟩
    let t : Table Bench.types Unit Nat := ⟨[some flag, none, some flag, none, some flag]⟩
    t.slots.length = c.operations.length ∧ ∀ dispatch x,
      (t.call c dispatch "alpha" (.tuple []) (.base .uint32) () x).outcome =
        .returned (.error (.mismatch "Shifty" "alpha" "<unknown>" "fn() -> u32")) ∧
      (t.call c dispatch "alpha" (.tuple []) (.base .bool) () x).outcome =
        .returned (.error (.mismatch "Shifty" "alpha" "fn() -> u32" "fn() -> bool")) ∧
      (t.call c dispatch "beta" (.tuple []) (.base .bool) () x).outcome =
        .returned (.error (.unbound "Shifty" "beta")) ∧
      (t.call c dispatch "ünï" (.tuple []) (.base .bool) () x).outcome =
        .returned (.error (.violation "Shifty" "ünï")) ∧
      (bind c "ünï" flag t).outcome = .returned (.error (.violation "Shifty" "ünï")) ∧
      ∃ expected, (bind c "beta" flag t).outcome =
        .returned (.error (.mismatch "Shifty" "beta" expected "fn() -> bool")) := by
  intro c flag t
  have ht : t.slots.length = c.operations.length := rfl
  have hsigned : c.signature "alpha" = some (.of (.tuple []) (.base .uint32)) := rfl
  have hunsigned : c.signature "ünï" = none := rfl
  have hholds : t.Holds c "alpha" flag := ⟨0, rfl, rfl⟩
  have hword := (refusals_classified c t ht "alpha" (.tuple []) (.base .uint32)).2
  have hflag := (refusals_classified c t ht "alpha" (.tuple []) (.base .bool)).2
  have hempty := refusals_classified c t ht "beta" (.tuple []) (.base .bool)
  have hlost := refusals_classified c t ht "ünï" (.tuple []) (.base .bool)
  refine ⟨ht, fun dispatch x => ⟨?_, ?_, ?_, ?_, ?_, ?_⟩⟩
  · have hcall := hword dispatch () x
    obtain ⟨expected, h⟩ := hcall.mismatch.2 ⟨flag, _, hholds, hsigned, Or.inr (by decide)⟩
    rcases hcall.failure _ h with he | he | ⟨s, hs, he⟩
    · cases he
    · cases he
    · cases hsigned.symm.trans hs
      rw [h, he]
      rfl
  · have hcall := hflag dispatch () x
    obtain ⟨expected, h⟩ := hcall.mismatch.2 ⟨flag, _, hholds, hsigned, Or.inl (by decide)⟩
    rcases hcall.failure _ h with he | he | ⟨s, hs, he⟩
    · cases he
    · cases he
    · cases hsigned.symm.trans hs
      rw [h, he]
      rfl
  · exact (hempty.2 dispatch () x).unbound.2 ⟨by decide, 1, rfl, rfl⟩
  · exact (hlost.2 dispatch () x).violation.2 (Or.inr ⟨⟨flag, 4, rfl, rfl⟩, hunsigned⟩)
  · exact (hlost.1 _).violation.2 (Or.inr hunsigned)
  · exact (hempty.1 _).mismatch.2 ⟨by decide, _, rfl, by decide⟩

end Table

end Switchboard
