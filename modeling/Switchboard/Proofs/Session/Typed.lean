/-
  Where signatures stay, slots hold what is signed.

  A slot remembers the types it was bound with, and a call compares them with its own only after it
  has compared these with the signature.  As long as the signatures of a contract do not change, the
  second comparison cannot fail: each filled slot stands at the first position of a name and is
  bound with the types signed for that name (`Table.Typed`), and whatever is done in a session keeps
  this, exchanges of tables between instances included.

  * `Step.Keeps`: the step leaves the signatures of a contract;
  * `step_typed`, `run_typed`: what a step and a sequence of steps keep;
  * `filled_slot_runs`: a call that passes the checks before runs what is in the slot.
-/
import Switchboard.Proofs.Session.Frame

namespace Switchboard

variable {U : Universe}

/-! ## Typed tables -/

namespace Table

variable {κ D : Type} {c : Contract U} {t : Table U κ D} {o : String} {i : Nat} {b : Binding U κ D}

/-- Each filled slot stands at the first position of a name, and is bound with the types signed for
    that name. -/
def Typed (c : Contract U) (t : Table U κ D) : Prop :=
  ∀ i b, t.slot? i = some b → ∃ o, c.position? o = some i ∧ c.Signs o b.params b.ret

theorem typed_empty (c : Contract U) : (empty c : Table U κ D).Typed c := by
  intro i b hb
  rw [slot?_empty] at hb
  cases hb

/-- Filling the slot of a name with a binding of the signed types keeps a table typed. -/
theorem Typed.set (ht : t.Typed c) (hi : c.position? o = some i)
    (hs : c.Signs o b.params b.ret) : (⟨t.slots.set i (some b)⟩ : Table U κ D).Typed c := by
  intro j b' hb'
  rcases slot?_set_cases hb' with ⟨rfl, rfl⟩ | hb'
  · exact ⟨o, hi, hs⟩
  · exact ht j b' hb'

/-- In a typed table, the slot of a name is bound with the types signed for it. -/
theorem Typed.exists_body (ht : t.Typed c) (hi : c.position? o = some i) (hb : t.slot? i = some b)
    {A R : Ty U} (hs : c.Signs o A R) : ∃ f, b = ⟨A, R, f⟩ := by
  obtain ⟨o', hi', hs'⟩ := ht i b hb
  obtain rfl := Contract.position?_inj hi hi'
  rcases b with ⟨A', R', f⟩
  obtain ⟨rfl, rfl⟩ := hs.unique hs'
  exact ⟨f, rfl⟩

/-- In a typed table, no call is refused with the expected text `<unknown>`. -/
theorem Typed.lookup_ne_unknown (ht : t.Typed c) {A R : Ty U} (n o' found : String) :
    t.lookup c o A R ≠ .error (.mismatch n o' "<unknown>" found) := by
  intro h
  obtain ⟨i, b, hi, hb, hs, hne⟩ := lookup_unknown_iff.1 ⟨n, o', found, h⟩
  obtain ⟨f, rfl⟩ := ht.exists_body hi hb hs
  exact hne ⟨rfl, rfl⟩

end Table

/-! ## Typed sessions -/

/-- The step leaves the signatures of contract `k`, which are those of `c`: it declares none of
    them, or says again what is signed. -/
def Step.Keeps {κ D : Type} {n : Nat} (k : κ) (c : Contract U) : Step U κ D n → Prop
  | declare k' o sig => k' = k → c.signature o = sig
  | _ => True

instance {κ D : Type} {n : Nat} [DecidableEq κ] (k : κ) (c : Contract U) :
    DecidablePred (Step.Keeps (D := D) (n := n) k c)
  | .declare k' o sig => inferInstanceAs (Decidable (k' = k → c.signature o = sig))
  | .act _ _ | .callThrough _ _ _ _ _ _ _ | .swap _ _ _ | .describe _ _ | .initLog => isTrue trivial

namespace Session

variable {κ D : Type} {n : Nat} {k : κ} {c : Contract U}

/-- The contract of key `k` is `c`, and every instance's table for it is typed. -/
def TypedAt (k : κ) (c : Contract U) (s : Session U κ D n) : Prop :=
  s.contracts k = c ∧ ∀ j : Fin n, ((s.member j).tables k).Typed c

theorem start_typed (contracts : κ → Contract U) (data : Vector D n) (k : κ) :
    (start contracts data).TypedAt k (contracts k) := by
  refine ⟨rfl, fun j => ?_⟩
  have hj : ((start contracts data).member j).tables k = .empty (contracts k) := by
    rw [start_member, Instance.fresh]
  rw [hj]
  exact Table.typed_empty _

variable [DecidableEq κ]

/-- What every step keeps, a sequence of steps keeps. -/
theorem run_keeps {P : Session U κ D n → Prop} {depth : Nat} {steps : List (Step U κ D n)}
    (hstep : ∀ s, ∀ st ∈ steps, P s → P (s.step depth st).2) {s : Session U κ D n} (hs : P s) :
    P (s.run depth steps).2 := by
  induction steps generalizing s with
  | nil => exact hs
  | cons st rest ih =>
    have hfirst := hstep s st List.mem_cons_self hs
    exact ih (fun s' st' hst' => hstep s' st' (List.mem_cons_of_mem st hst')) hfirst

/-- A step that leaves the signatures of a contract leaves the contract. -/
theorem step_contract {s : Session U κ D n} (hs : s.contracts k = c) {st : Step U κ D n}
    (hst : st.Keeps k c) (depth : Nat) : (s.step depth st).2.contracts k = c := by
  cases st with
  | declare k' o sig =>
    show (if k = k' then (s.contracts k').redeclare o sig else s.contracts k) = c
    split
    · rename_i hk
      subst hk
      rw [hs]
      exact Contract.redeclare_of_signature (hst rfl)
    · exact hs
  | _ => exact hs

/-- **Every step keeps tables typed** that leaves the signatures of their contract. -/
theorem step_typed {s : Session U κ D n} (hs : s.TypedAt k c) {st : Step U κ D n}
    (hst : st.Keeps k c) (depth : Nat) : (s.step depth st).2.TypedAt k c := by
  refine ⟨step_contract hs.1 hst depth, fun j => ?_⟩
  rcases s.table_step_cases depth st j k with ⟨i, h⟩ | h | ⟨o, b, p, hp, hsig, h⟩
  · rw [h]
    exact hs.2 i
  · rw [h, hs.1]
    exact Table.typed_empty c
  · rw [h]
    rw [hs.1] at hp hsig
    exact (hs.2 j).set hp hsig

theorem run_typed {s : Session U κ D n} (hs : s.TypedAt k c) {steps : List (Step U κ D n)}
    (hsteps : ∀ st ∈ steps, st.Keeps k c) (depth : Nat) : (s.run depth steps).2.TypedAt k c := by
  have hstep : ∀ s', ∀ st ∈ steps, TypedAt k c s' → TypedAt k c (s'.step depth st).2 :=
    fun _ st hst h => step_typed h (hsteps st hst) depth
  exact run_keeps hstep hs

/-- **A filled slot that passes the checks runs.**  Take a contract, made in any way, and any
    session in which its signatures stay: fresh instances, bindings that are accepted and refused,
    exchanges of tables, and whatever else.  Then no call through a table for that contract, of any
    name and at any types, is refused with the expected text `<unknown>`; and if the name has a
    position, the slot there is filled and the types are those signed, then the call runs the
    routine in the slot. -/
theorem filled_slot_runs (contracts : κ → Contract U) (data : Vector D n) (depth : Nat) (k : κ)
    (steps : List (Step U κ D n)) (hsteps : ∀ st ∈ steps, st.Keeps k (contracts k)) (i : Fin n) :
    let s := ((start contracts data).run depth steps).2
    let c := contracts k
    let t := (s.member i).tables k
    s.contracts k = c ∧
    ∀ (dispatch : Dispatch U κ D) (x : D) (o : String) (A R : Ty U) (args : A.Val),
      let call := t.call c dispatch o A R args x
      (∀ n o' found,
        call.outcome ≠ .returned (.error (.mismatch n o' "<unknown>" found))) ∧
      ∀ p b, c.resolve o = .ok p → t.slot? p = some b → c.check o A R = .ok () →
        ∃ f, b = ⟨A, R, f⟩ ∧ call = ((f args).exec dispatch x).invoked c.name o := by
  intro s c t
  obtain ⟨hc, ht⟩ := run_typed (start_typed contracts data k) hsteps depth
  refine ⟨hc, fun dispatch x o A R args => ⟨fun n o' found => ?_, fun p b hp hb hcheck => ?_⟩⟩
  · rw [Ne, Table.call_eq_error_iff]
    exact (ht i).lookup_ne_unknown n o' found
  · have hpos := Contract.resolve_eq_ok_iff.1 hp
    have hsigns := Contract.check_iff_signs.1 hcheck
    obtain ⟨f, rfl⟩ := (ht i).exists_body hpos hb hsigns
    exact ⟨f, rfl, Table.call_eq_invoked hpos hb hsigns dispatch args x⟩

/-- A name that is listed twice is bound on one instance and, after an exchange of tables, called on
    another: the routine runs, whatever was refused and declared again in between. -/
theorem filled_slot_runs_shifty :
    let c := Bench.Key.shifty.contract
    let word : Binding Bench.types Unit Nat :=
      ⟨.tuple [], .base .uint32, fun _ => .get fun d => .done d.toUInt32⟩
    let steps : List (Step Bench.types Unit Nat 2) :=
      [.act 0 (.bind () "alpha" word), .act 1 (.bind () "beta" word), .swap 0 1 (),
        .declare () "beta" (some (.of (.tuple [.base .uint32]) (.base .uint32))),
        .act 0 (.bind () "ünï" word)]
    let s := ((start (fun _ => c) #v[3, 7]).run 0 steps).2
    ∀ dispatch x, ((s.member 1).tables ()).call c dispatch "alpha" (.tuple []) (.base .uint32) () x =
      ⟨.returned (.ok x.toUInt32), x, [.invoking "Shifty" "alpha"]⟩ := by
  intro c word steps s dispatch x
  have hstart : start (fun _ => c) #v[3, 7] =
      ⟨fun _ : Unit => c, #v[.fresh (fun _ => c) 3, .fresh (fun _ => c) 7]⟩ := by
    simp [start]
  have hslot : ((s.member 1).tables ()).slot? 0 = some word := by
    simp only [s, hstart]; rfl
  have hruns := (filled_slot_runs (fun _ => c) #v[3, 7] 0 () steps (by decide) 1).2
  obtain ⟨f, hf, hcall⟩ :=
    (hruns dispatch x "alpha" (.tuple []) (.base .uint32) ()).2 0 word rfl hslot rfl
  obtain rfl : (fun _ => .get fun d => .done d.toUInt32) = f := by simpa [word] using hf
  exact hcall

end Session

end Switchboard
