/-
  Declared contracts.

  A contract that is made from declarations lists their names, signs each name with the types of its
  declaration, and each declaration has a function that calls its operation at these types
  (`Action.generated`).  With distinct names the four fit together, so that such a call can only
  fail because nothing is bound.

  * `signature_ofDeclarations_isSome_iff`: exactly the listed names are signed;
  * `signature_ofDeclarations`: a name is signed with the types of its declaration;
  * `generated_fails_only_unbound`: what the call of a declared operation gives after any history
    of its table.
-/
import Switchboard.Bench.Catalog
import Switchboard.Proofs.Table.History

namespace Switchboard

variable {U : Universe}

/-! ## Names and signatures -/

namespace Contract

variable {name : String} {ds : List (Declaration U)}

/-- A declared contract signs exactly the names that it lists. -/
theorem signature_ofDeclarations_isSome_iff (o : String) :
    ((ofDeclarations name ds).signature o).isSome ↔ o ∈ (ofDeclarations name ds).operations := by
  simp [ofDeclarations]

/-- Among distinct names, a name leads to its declaration. -/
theorem find?_declaration (hds : (ds.map (·.name)).Nodup) {d : Declaration U} (hd : d ∈ ds) :
    ds.find? (·.name == d.name) = some d := by
  induction ds with
  | nil => cases hd
  | cons d' ds ih =>
    rw [List.map_cons, List.nodup_cons] at hds
    rcases List.mem_cons.1 hd with rfl | hd
    · simp
    · have hne : d'.name ≠ d.name := by
        intro he
        exact hds.1 (he ▸ List.mem_map_of_mem hd)
      rw [List.find?_cons_of_neg (by simpa using hne)]
      exact ih hds.2 hd

/-- A declared contract signs a name with the types of its declaration. -/
theorem signature_ofDeclarations (hds : (ds.map (·.name)).Nodup) {d : Declaration U} (hd : d ∈ ds) :
    (ofDeclarations name ds).signature d.name = some d.signature := by
  simp [ofDeclarations, find?_declaration hds hd]

/-- A name that is signed as declared is signed with the declared types only. -/
theorem signs_declared_iff {c : Contract U} {d : Declaration U}
    (hsig : c.signature d.name = some d.signature) {A R : Ty U} :
    c.Signs d.name A R ↔ .tuple d.params = A ∧ d.ret = R := by
  simp [Signs, hsig, Declaration.signature, Signature.of]

end Contract

/-! ## Calls of declared operations -/

/-- The call of a declared operation is the call through the table at the declared types. -/
theorem Action.generated_apply {κ D : Type} [DecidableEq κ] (contracts : κ → Contract U)
    (depth : Nat) (k : κ) (d : Declaration U) (args : Ty.Tuple d.params) (x : Instance U κ D) :
    (generated k d args).apply contracts depth x =
      let r := (x.tables k).call (contracts k) (Instance.dispatch contracts x.tables depth) d.name
        (.tuple d.params) d.ret args x.data
      ⟨r.outcome.map (·.map (.value d.ret)), { x with data := r.state }, r.events⟩ := by
  show ((Instance.invoke contracts depth k d.name (.tuple d.params) d.ret args) >>=
    fun r => pure (r.map (Reply.value d.ret))) x = _
  rw [Effect.bind_pure_run, Instance.invoke_eq_callThrough]
  rfl

section
variable {κ D : Type} {c : Contract U} {d : Declaration U}
  (hsig : c.signature d.name = some d.signature) {h : List (Request U κ D)}
  (hh : ∀ r ∈ h, r.KeepsSignatures)
include hsig hh

/-- What was accepted for a declared operation has the declared types. -/
theorem exists_body_of_lastAccepted {b : Binding U κ D}
    (hb : (Board.start c).lastAccepted h d.name = some b) :
    ∃ f, b = ⟨.tuple d.params, d.ret, f⟩ := by
  have hs := Board.signs_of_lastAccepted hh hb
  obtain ⟨hA, hR⟩ := (Contract.signs_declared_iff hsig).1 hs
  rcases b with ⟨A, R, f⟩
  subst hA hR
  exact ⟨f, rfl⟩

/-- The call of a declared operation through a table with a history: it is refused as unbound if
    nothing was accepted for the operation, and runs the routine accepted last otherwise. -/
theorem call_declared_cases (hlisted : d.name ∈ c.operations) (dispatch : Dispatch U κ D)
    (args : Ty.Tuple d.params) (x : D) :
    let s := (Board.start c).after h
    let last := (Board.start c).lastAccepted h d.name
    let call := s.table.call c dispatch d.name (.tuple d.params) d.ret args x
    (last = none ∧ call = .rejected c.name d.name (.unbound c.name d.name) x) ∨
    (∃ f, last = some ⟨.tuple d.params, d.ret, f⟩ ∧
      call = ((f args).exec dispatch x).invoked c.name d.name) := by
  intro s last call
  have hc : s.contract = c := Board.after_contract _ hh
  obtain ⟨i, hi⟩ := Contract.exists_position?_iff.2 hlisted
  have hslot : s.table.slot? i = last := Board.slot?_after_start (by rw [hc]; exact hi)
  rcases hlast : last with _ | b
  · refine Or.inl ⟨rfl, ?_⟩
    exact Table.call_eq_unbound (A := .tuple d.params) hi (hslot.trans hlast) dispatch args x
  · obtain ⟨f, rfl⟩ := exists_body_of_lastAccepted hsig hh hlast
    have hs := (Contract.signs_declared_iff hsig).2 ⟨rfl, rfl⟩
    exact Or.inr ⟨f, rfl, Table.call_eq_invoked hi (hslot.trans hlast) hs dispatch args x⟩

end

end Switchboard
