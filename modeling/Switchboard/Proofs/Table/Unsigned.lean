/-
  Names without a signature.

  A contract made by hand may list a name and not sign it.  To a binding such a name is undeclared:
  it asks for the signature and finds none.  A call asks for the slot first.  Nothing is ever bound
  there, so the call finds the slot empty and never gets to ask for the signature; the name looks
  declared and unbound.  Binding and calling agree about names without signature exactly if none of
  them is listed.

  * `slot?_after_unsigned`: the slot of a name without signature stays empty;
  * `bind_unsigned`, `call_unlisted`, `call_unsigned`: how the two are refused;
  * `Contract.UnsignedUndeclared`: names without signature are treated as undeclared throughout;
  * `not_unsignedUndeclared_manual`: a contract of which this does not hold;
  * `unsigned_refusals`: how names without signature are refused, and the contracts of which it holds.
-/
import Switchboard.Proofs.Table.Queries
import Switchboard.Proofs.Table.Refusals

namespace Switchboard

variable {U : Universe}

variable {κ D : Type} {c : Contract U} {o : String} {A R : Ty U}

/-! ## Refusals -/

namespace Table

/-- A binding of a name without signature is refused as undeclared, whatever the table. -/
theorem bind_unsigned (ho : c.signature o = none) (b : Binding U κ D) (t : Table U κ D) :
    bind c o b t = ⟨.returned (.error (.violation c.name o)), t, []⟩ := by
  rcases bind_cases c o b t with ⟨i, -, ⟨s, hs, -⟩, -⟩ | ⟨-, e, h⟩
  · cases ho.symm.trans hs
  · have hanswer : (bind c o b t).outcome = .returned (.error (.violation c.name o)) :=
      bind_eq_error_iff.2 (Contract.refusesBinding_violation_iff.2 (Or.inr ho))
    rw [h] at hanswer ⊢
    cases hanswer
    rfl

/-- A call of a name that is not listed is refused as undeclared, whatever the table. -/
theorem call_unlisted (ho : o ∉ c.operations) (t : Table U κ D) (dispatch : Dispatch U κ D)
    (args : A.Val) (x : D) :
    t.call c dispatch o A R args x = .rejected c.name o (.violation c.name o) x := by
  have hl : t.lookup c o A R = .error (.violation c.name o) := by
    simp only [lookup, Contract.resolve_eq_error_iff.2 ⟨ho, rfl⟩]
  rw [call, hl]
  rfl

end Table

namespace Board

variable {h : List (Request U κ D)}

/-- Where signatures stay, nothing is ever bound to a name without one. -/
theorem slot?_after_unsigned (hh : ∀ r ∈ h, r.KeepsSignatures) (ho : c.signature o = none) {i : Nat}
    (hi : c.position? o = some i) : ((start c : Board U κ D).after h).table.slot? i = none := by
  rw [slot?_after_start (by rw [after_position?]; exact hi), Option.eq_none_iff_forall_ne_some]
  intro b hb
  obtain ⟨s, hs, -⟩ := signs_of_lastAccepted hh hb
  cases ho.symm.trans hs

/-- **Calls of a name without signature** are refused: as undeclared if the name is not listed, and
    as unbound if it is. -/
theorem call_unsigned (hh : ∀ r ∈ h, r.KeepsSignatures) (ho : c.signature o = none)
    (dispatch : Dispatch U κ D) (args : A.Val) (x : D) :
    ((start c).after h).table.call c dispatch o A R args x =
      .rejected c.name o (if o ∈ c.operations then .unbound c.name o else .violation c.name o) x := by
  by_cases hlisted : o ∈ c.operations
  · obtain ⟨i, hi⟩ := Contract.exists_position?_iff.2 hlisted
    rw [if_pos hlisted]
    -- the slot is empty, so that the signature is not asked for
    exact Table.call_eq_unbound hi (slot?_after_unsigned hh ho hi) dispatch args x
  · rw [if_neg hlisted]
    exact Table.call_unlisted hlisted _ dispatch args x

/-- Only listed names are refused as unbound. -/
theorem listed_of_unbound (hh : ∀ r ∈ h, r.KeepsSignatures) {dispatch : Dispatch U κ D}
    {args : A.Val} {x : D} {e : Failure} (hu : e.isUnbound)
    (he : (((start c).after h).table.call c dispatch o A R args x).outcome = .returned (.error e)) :
    o ∈ c.operations := by
  have hfits : ((start c : Board U κ D).after h).table.slots.length = c.operations.length := by
    have := after_fits (start_fits c) h
    rwa [Fits, after_contract _ hh] at this
  rcases (Table.lookup_eq_error_iff hfits).1 (Table.call_eq_error_iff.1 he) with
    _ | hv | _ | _ | _
  · cases hu
  · exact hv.listed
  · cases hu
  · cases hu
  · cases hu

end Board

/-! ## Undeclared names -/

/-- Names without signature are treated as undeclared: after every history that leaves the
    signatures, bindings and calls of such a name are refused as undeclared, and only names with a
    signature are refused as unbound. -/
def Contract.UnsignedUndeclared (κ D : Type) (c : Contract U) : Prop :=
  ∀ h : List (Request U κ D), (∀ r ∈ h, r.KeepsSignatures) →
    let t := ((Board.start c).after h).table
    (∀ o, c.signature o = none →
      (∀ b, (Table.bind c o b t).outcome = .returned (.error (.violation c.name o))) ∧
      ∀ (dispatch : Dispatch U κ D) (A R : Ty U) (args : A.Val) (x : D),
        (t.call c dispatch o A R args x).outcome = .returned (.error (.violation c.name o))) ∧
    ∀ (dispatch : Dispatch U κ D) (o : String) (A R : Ty U) (args : A.Val) (x : D) e,
      (t.call c dispatch o A R args x).outcome = .returned (.error e) → e.isUnbound →
        (c.signature o).isSome

/-- `Manual` lists `pong` and does not sign it, and a call of `pong` is refused as unbound. -/
theorem not_unsignedUndeclared_manual :
    ¬ Bench.Key.manual.contract.UnsignedUndeclared Unit Nat := by
  intro hall
  have hcall := ((hall [] (by decide)).1 "pong" rfl).2 (fun _ _ _ _ _ => Effect.exhaust) (.tuple [])
    (.base .bool) () 0
  cases hcall

/-- **How names without signature are refused.**  After every history that leaves the signatures, a
    binding of a name without one is refused as undeclared.  A call of it is refused as undeclared
    only if the name is not listed; if it is listed, the call is refused as unbound, since its slot
    is empty and is looked at before the signature.  So names without signature are treated as
    undeclared throughout iff all listed names are signed. -/
theorem unsigned_refusals (c : Contract U) [Inhabited D] :
    (∀ h : List (Request U κ D), (∀ r ∈ h, r.KeepsSignatures) →
      let t := ((Board.start c).after h).table
      ∀ o, c.signature o = none →
        (∀ b, Table.bind c o b t = ⟨.returned (.error (.violation c.name o)), t, []⟩) ∧
        ∀ (dispatch : Dispatch U κ D) (A R : Ty U) (args : A.Val) (x : D),
          t.call c dispatch o A R args x = .rejected c.name o
            (if o ∈ c.operations then .unbound c.name o else .violation c.name o) x) ∧
    (c.UnsignedUndeclared κ D ↔ ∀ o ∈ c.operations, (c.signature o).isSome) := by
  refine ⟨fun h hh => ?_, fun hall o hlisted => ?_, fun hsigned h hh => ⟨fun o ho => ?_, ?_⟩⟩
  · intro t o ho
    exact ⟨fun b => Table.bind_unsigned ho b t,
      fun dispatch A R args x => Board.call_unsigned hh ho dispatch args x⟩
  · rcases ho : c.signature o with _ | s
    · have hcall := ((hall [] (by simp)).1 o ho).2 (fun _ _ _ _ _ => Effect.exhaust) (.tuple []) .unit
        () default
      rw [Board.call_unsigned (by simp) ho, if_pos hlisted] at hcall
      cases hcall
    · rfl
  · have hunlisted : o ∉ c.operations := fun hlisted => by
      have := hsigned o hlisted
      rw [ho] at this
      cases this
    refine ⟨fun b => ?_, fun dispatch A R args x => ?_⟩
    · rw [Table.bind_unsigned ho]
    · rw [Board.call_unsigned hh ho, if_neg hunlisted]
      rfl
  · intro dispatch o A R args x e he hu
    exact hsigned o (Board.listed_of_unbound hh hu he)

/-- `pong` is refused as undeclared by a binding and as unbound by a call, also after the binding was
    refused and `ping` was bound.  A counter signs all it lists, so that a name that it does not sign
    is undeclared to both. -/
theorem unsigned_refusals_manual :
    let c := Bench.Key.manual.contract
    let flag : Binding Bench.types Unit Nat := ⟨.tuple [], .base .bool, fun _ => .done true⟩
    let h : List (Request Bench.types Unit Nat) := [.bind "pong" flag, .bind "ping" flag]
    let t := ((Board.start c).after h).table
    c.signature "pong" = none ∧
      Table.bind c "pong" flag t = ⟨.returned (.error (.violation "Manual" "pong")), t, []⟩ ∧
      (∀ dispatch x, t.call c dispatch "pong" (.tuple []) (.base .bool) () x =
        .rejected "Manual" "pong" (.unbound "Manual" "pong") x) ∧
      Bench.Key.counter.contract.UnsignedUndeclared Unit Nat := by
  intro c flag h t
  obtain ⟨hbind, hcall⟩ := (unsigned_refusals c).1 h (by decide) "pong" rfl
  exact ⟨rfl, hbind flag, fun dispatch x => hcall dispatch (.tuple []) (.base .bool) () x,
    (unsigned_refusals Bench.Key.counter.contract).2.2 (by decide)⟩

end Switchboard
