/-
  A table is a map from names to bindings.

  The slots of a table are addressed by position, and a position by the first place at which a name
  is listed.  Seen from outside none of this shows: a table that started empty behaves as the map
  that sends each name to the binding accepted last for it, whatever else was asked in between, and
  however often the signatures of its contract changed.

  * `call_after_cases`: a call after a history runs the binding accepted last, or is refused;
  * `refines_lastAccepted`: when bindings are accepted and calls succeed, and what they return;
  * `call_safe_under_redeclaration`: a routine runs only at the types it was bound with and that
    are signed at the time of the call, and declarations alone change no slot.
-/
import Switchboard.Bench.Catalog
import Switchboard.Proofs.Table.History

namespace Switchboard.Board

open Bench (Key)

variable {κ D : Type}

/-- After a history from an empty table on, a call runs the routine accepted last for its name, if
    that was bound with the types of the call and these are signed for the name now.  Otherwise it
    is refused. -/
theorem call_after_cases (c : Contract U) (h : List (Request U κ D)) (dispatch : Dispatch U κ D)
    (o : String) (A R : Ty U) (args : A.Val) (x : D) :
    let s := (start c : Board U κ D).after h
    (∃ f, (start c).lastAccepted h o = some ⟨A, R, f⟩ ∧ s.contract.Signs o A R ∧
      s.table.call s.contract dispatch o A R args x =
        ((f args).exec dispatch x).invoked c.name o) ∨
    (¬ (∃ f, (start c).lastAccepted h o = some ⟨A, R, f⟩ ∧ s.contract.Signs o A R) ∧
      ∃ e, s.table.lookup s.contract o A R = .error e ∧
        s.table.call s.contract dispatch o A R args x = .rejected c.name o e x) := by
  intro s
  have hname : s.contract.name = c.name := after_name _ h
  rw [← hname]
  rcases Table.call_cases s.contract s.table dispatch o A R args x with
    ⟨i, f, hi, hf, hs, hcall⟩ | ⟨e, he, hcall⟩
  · exact Or.inl ⟨f, (slot?_after_start hi).symm.trans hf, hs, hcall⟩
  · refine Or.inr ⟨?_, e, he, hcall⟩
    rintro ⟨f, hf, hs⟩
    obtain ⟨i, hi, hslot⟩ := exists_slot?_of_lastAccepted hf
    have hok := Table.lookup_eq_ok_iff.2 ⟨i, hi, hslot, Contract.check_iff_signs.2 hs⟩
    cases he.symm.trans hok

/-- **A table refines the map from names to the binding accepted last.**  After any history of a
    table that started empty, a binding is accepted iff its name is listed and signed with exactly
    its types.  A call gets through iff its name is listed, the binding accepted last for it was
    made at the types of the call, and the name is signed with these now; it is then the run of the
    routine of that binding, so that it succeeds with exactly the value that the routine returns. -/
theorem refines_lastAccepted (c : Contract U) (h : List (Request U κ D)) :
    let s := (start c : Board U κ D).after h
    let last := (start c : Board U κ D).lastAccepted h
    (∀ o b, (Table.bind s.contract o b s.table).outcome = .returned (.ok ()) ↔
      o ∈ c.operations ∧ s.contract.Signs o b.params b.ret) ∧
    ∀ (dispatch : Dispatch U κ D) (x : D) (o : String) (A R : Ty U) (args : A.Val),
      let call := s.table.call s.contract dispatch o A R args x
      ((∀ e, call.outcome ≠ .returned (.error e)) ↔
        o ∈ c.operations ∧ (∃ f, last o = some ⟨A, R, f⟩) ∧ s.contract.Signs o A R) ∧
      (∀ f, last o = some ⟨A, R, f⟩ → s.contract.Signs o A R →
        call = ((f args).exec dispatch x).invoked c.name o) ∧
      ∀ v, call.outcome = .returned (.ok v) ↔
        o ∈ c.operations ∧ s.contract.Signs o A R ∧
          ∃ f, last o = some ⟨A, R, f⟩ ∧ ((f args).exec dispatch x).outcome = .returned v := by
  intro s last
  refine ⟨fun o b => ?_, fun dispatch x o A R args => ?_⟩
  · rw [Table.bind_accepted_iff, after_operations]; rfl
  · rcases call_after_cases c h dispatch o A R args x with
      ⟨f, hf, hs, hcall⟩ | ⟨hn, e, -, hcall⟩
    · have hlisted : o ∈ c.operations := listed_of_lastAccepted hf
      have huniq : ∀ g, last o = some ⟨A, R, g⟩ → f = g :=
        fun g hg => by simpa using hf.symm.trans hg
      refine ⟨iff_of_true (fun e => ?_) ⟨hlisted, ⟨f, hf⟩, hs⟩, fun g hg _ => ?_, fun v => ?_⟩
      · rw [hcall]; exact Run.invoked_ne_error _ _ _ e
      · obtain rfl := huniq g hg
        exact hcall
      · rw [hcall, Run.invoked_eq_ok_iff]
        constructor
        · exact fun hv => ⟨hlisted, hs, f, hf, hv⟩
        · rintro ⟨-, -, g, hg, hv⟩
          obtain rfl := huniq g hg
          exact hv
    · refine ⟨iff_of_false (fun hr => hr e (by rw [hcall]; rfl)) ?_, fun f hf hs => ?_,
        fun v => iff_of_false ?_ ?_⟩
      · rintro ⟨-, ⟨f, hf⟩, hs⟩
        exact hn ⟨f, hf, hs⟩
      · exact absurd ⟨f, hf, hs⟩ hn
      · rw [hcall]; simp [Run.rejected]
      · rintro ⟨-, hs, f, hf, -⟩
        exact hn ⟨f, hf, hs⟩

/-- A name that is listed twice, bound twice, with a refused binding and a change of signatures in
    between: the second accepted binding is the one that runs. -/
theorem refines_lastAccepted_shifty :
    let c := Key.shifty.contract
    let word (n : UInt32) : Binding Bench.types Unit Nat :=
      ⟨.tuple [], .base .uint32, fun _ => .done n⟩
    let h : List (Request Bench.types Unit Nat) :=
      [.bind "alpha" (word 1), .declare fun _ => none, .bind "alpha" (word 2), .isBound "alpha",
        .declare c.signature, .bind "alpha" (word 3), .bind "ünï" (word 4)]
    let s := (start c).after h
    (start c).lastAccepted h "alpha" = some (word 3) ∧
      s.contract.Signs "alpha" (.tuple []) (.base .uint32) ∧
      ∀ dispatch x, s.table.call s.contract dispatch "alpha" (.tuple []) (.base .uint32) () x =
        ⟨.returned (.ok 3), x, [.invoking "Shifty" "alpha"]⟩ := by
  intro c word h s
  refine ⟨rfl, ⟨_, rfl, rfl, rfl⟩, fun dispatch x => ?_⟩
  exact ((refines_lastAccepted c h).2 dispatch x "alpha" (.tuple []) (.base .uint32) ()).2.1 _ rfl
    ⟨_, rfl, rfl, rfl⟩

/-! ## Changing signatures -/

/-- A history without accepted bindings of a name leaves the binding accepted last for it. -/
theorem lastAccepted_append_of_none (s : Board U κ D) (h h' : List (Request U κ D)) {o : String}
    (hn : (s.after h).accepted h' o = []) : s.lastAccepted (h ++ h') o = s.lastAccepted h o := by
  have : (s.after h).lastAccepted h' o = none := by rw [lastAccepted, hn]; rfl
  rw [lastAccepted_append, this, Option.none_or]

/-- Declarations alone leave the table. -/
theorem table_after_declare (s : Board U κ D) (signatures : List (String → Option (Signature U))) :
    (s.after (signatures.map .declare)).table = s.table := by
  induction signatures generalizing s with
  | nil => rfl
  | cons signature signatures ih => exact ih _

/-- After a history from an empty table on, a call is refused with the expected text `<unknown>` iff
    its name is bound and signed with the types of the call, but bound with others. -/
theorem call_unknown_iff (c : Contract U) (h : List (Request U κ D)) (dispatch : Dispatch U κ D)
    (o : String) (A R : Ty U) (args : A.Val) (x : D) :
    let s := (start c : Board U κ D).after h
    (∃ n o' found, (s.table.call s.contract dispatch o A R args x).outcome =
        .returned (.error (.mismatch n o' "<unknown>" found))) ↔
      ∃ b, (start c).lastAccepted h o = some b ∧ s.contract.Signs o A R ∧
        ¬ (b.params = A ∧ b.ret = R) := by
  intro s
  simp only [Table.call_eq_error_iff]
  rw [Table.lookup_unknown_iff]
  constructor
  · rintro ⟨i, b, hi, hb, hs, ht⟩
    exact ⟨b, (slot?_after_start hi).symm.trans hb, hs, ht⟩
  · rintro ⟨b, hb, hs, ht⟩
    obtain ⟨i, hi, hslot⟩ := exists_slot?_of_lastAccepted hb
    exact ⟨i, b, hi, hslot, hs, ht⟩

/-- **Routines run only at their own types.**  After any history of bindings, calls and changes of
    signatures, a call is either refused, and then touches no data, or it runs the routine accepted
    last for its name, and then its types are those that the routine was bound with and those signed
    for the name now.  It is refused with the expected text `<unknown>` iff the name is bound and
    signed with the types of the call, but bound with others; no signature is shown so.
    Declarations change no slot: as long as no other binding of a name is accepted, each call of it
    at the bound types runs the same routine whenever these types are the signed ones. -/
theorem call_safe_under_redeclaration (c : Contract U) (h : List (Request U κ D)) :
    let s := (start c : Board U κ D).after h
    let last := (start c : Board U κ D).lastAccepted h
    (∀ (dispatch : Dispatch U κ D) (x : D) (o : String) (A R : Ty U) (args : A.Val),
      let call := s.table.call s.contract dispatch o A R args x
      ((∃ f, last o = some ⟨A, R, f⟩ ∧ s.contract.Signs o A R ∧
          call = ((f args).exec dispatch x).invoked c.name o) ∨
        ∃ e, call = .rejected c.name o e x) ∧
      ((∃ n o' found, call.outcome = .returned (.error (.mismatch n o' "<unknown>" found))) ↔
        ∃ b, last o = some b ∧ s.contract.Signs o A R ∧ ¬ (b.params = A ∧ b.ret = R))) ∧
    (∀ sig : Signature U, sig.text ≠ "<unknown>") ∧
    (∀ signatures : List _, (s.after (signatures.map .declare)).table = s.table) ∧
    ∀ (h' : List (Request U κ D)) (o : String) (b : Binding U κ D), last o = some b →
      s.accepted h' o = [] → (s.after h').contract.Signs o b.params b.ret →
      ∀ (dispatch : Dispatch U κ D) (x : D) (args : b.params.Val),
        (s.after h').table.call (s.after h').contract dispatch o b.params b.ret args x =
          ((b.body args).exec dispatch x).invoked c.name o := by
  intro s last
  refine ⟨fun dispatch x o A R args => ⟨?_, ?_⟩, Signature.text_ne_unknown,
    s.table_after_declare, fun h' o b hb hn hs dispatch x args => ?_⟩
  · rcases call_after_cases c h dispatch o A R args x with
      ⟨f, hf, hs, hcall⟩ | ⟨-, e, -, hcall⟩
    · exact Or.inl ⟨f, hf, hs, hcall⟩
    · exact Or.inr ⟨e, hcall⟩
  · exact call_unknown_iff c h dispatch o A R args x
  · -- the two histories in a row are one history, in which `b` is still the last
    have hb' : (start c : Board U κ D).lastAccepted (h ++ h') o = some b := by
      rw [lastAccepted_append_of_none _ h h' hn]; exact hb
    obtain ⟨i, hi, hslot⟩ := exists_slot?_of_lastAccepted hb'
    rw [after_append] at hi hslot
    rw [Table.call_eq_invoked hi hslot hs, after_name, after_name]
    rfl

/-- A binding whose signature is changed: a call at the new types does not reach it, and it runs
    again once the old signature is back. -/
theorem call_safe_under_redeclaration_shifty :
    let c := Key.shifty.contract
    let word : Binding Bench.types Unit Nat := ⟨.tuple [], .base .uint32, fun _ => .done 1⟩
    let other := (c.redeclare "alpha" (some (.of (.tuple []) (.base .bool)))).signature
    let h : List (Request Bench.types Unit Nat) := [.bind "alpha" word, .declare other]
    let s := (start c).after h
    let s' := s.after [.bind "alpha" word, .declare c.signature]
    ∀ dispatch x,
      (∃ n o found,
        (s.table.call s.contract dispatch "alpha" (.tuple []) (.base .bool) () x).outcome =
          .returned (.error (.mismatch n o "<unknown>" found))) ∧
      s'.table.call s'.contract dispatch "alpha" (.tuple []) (.base .uint32) () x =
        ⟨.returned (.ok 1), x, [.invoking "Shifty" "alpha"]⟩ := by
  intro c word other h s s' dispatch x
  have hsafe := call_safe_under_redeclaration c h
  refine ⟨(hsafe.1 dispatch x "alpha" (.tuple []) (.base .bool) ()).2.2 ⟨word, rfl, ?_, ?_⟩, ?_⟩
  · exact ⟨_, rfl, rfl, rfl⟩
  · simp [word]
  · exact hsafe.2.2.2 _ "alpha" word rfl rfl ⟨_, rfl, rfl, rfl⟩ dispatch x ()

end Switchboard.Board
