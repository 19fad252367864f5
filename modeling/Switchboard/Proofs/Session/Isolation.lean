/-
  Instances do not interfere.

  The instances of a session share their contracts and nothing else.  As long as each step is
  addressed to one instance, or to a contract, what happens on an instance can be told from its own
  steps and the changes of contracts: leaving out the steps of the others changes none of its
  answers.

  * `Step.Addressed`, `Step.concerns`: to whom a step is addressed, and whom it concerns;
  * `AgreeAt`: two sessions that cannot be told apart by a given instance;
  * `step_other`, `step_agree`: steps of others are not noticed, one's own steps keep agreement;
  * `run_agree`: the same for a sequence of steps and the part of it that concerns an instance;
  * `run_filter_concerns`: leaving out the steps of others changes nothing for an instance.
-/
import Switchboard.Proofs.Session.Frame

namespace Switchboard

variable {U : Universe}

/-! ## Whom a step concerns -/

namespace Step

variable {κ D : Type} {n : Nat}

/-- The step is addressed to one instance, or to a contract. -/
def Addressed : Step U κ D n → Prop
  | callThrough _ _ _ _ _ _ _ | swap _ _ _ => False
  | act _ _ | declare _ _ _ | describe _ _ | initLog => True

instance : DecidablePred (Addressed (U := U) (κ := κ) (D := D) (n := n))
  | .callThrough _ _ _ _ _ _ _ | .swap _ _ _ => isFalse id
  | .act _ _ | .declare _ _ _ | .describe _ _ | .initLog => isTrue trivial

/-- Whether a step concerns instance `i`: it is addressed to `i`, or to a contract, which all
    instances share. -/
def concerns (i : Fin n) : Step U κ D n → Bool
  | act j _ => j == i
  | callThrough j j' _ _ _ _ _ | swap j j' _ => j == i || j' == i
  | declare _ _ _ | describe _ _ | initLog => true

end Step

namespace Session

variable {κ D : Type} {n : Nat} {i : Fin n} {s s' : Session U κ D n}

/-- The two sessions have the same contracts and the same instance `i`. -/
def AgreeAt (i : Fin n) (s s' : Session U κ D n) : Prop :=
  s.contracts = s'.contracts ∧ s.member i = s'.member i

/-- The answers to the steps that concern instance `i`. -/
def answersAt {α : Type} (i : Fin n) (steps : List (Step U κ D n)) (answers : List α) : List α :=
  ((steps.zip answers).filter fun p => p.1.concerns i).map (·.2)

variable {α : Type} {st : Step U κ D n} {rest : List (Step U κ D n)}

theorem answersAt_cons_of_concerns (h : st.concerns i) (a : α) (answers : List α) :
    answersAt i (st :: rest) (a :: answers) = a :: answersAt i rest answers := by
  simp [answersAt, h]

theorem answersAt_cons_of_not_concerns (h : ¬ st.concerns i) (a : α) (answers : List α) :
    answersAt i (st :: rest) (a :: answers) = answersAt i rest answers := by
  simp [answersAt, h]

/-! ## Agreement -/

variable [DecidableEq κ]

/-- **The steps of others are not noticed.** -/
theorem step_other (hst : st.Addressed) (hi : ¬ st.concerns i) (depth : Nat) :
    AgreeAt i (s.step depth st).2 s := by
  cases st with
  | act j a =>
    have hij : i ≠ j := by
      rintro rfl
      exact hi (by simp [Step.concerns])
    exact ⟨rfl, withMember_member_other s hij _⟩
  | callThrough | swap => exact hst.elim
  | declare | describe | initLog => exact absurd rfl hi

/-- **One's own steps are answered alike** in sessions that agree, and these agree afterwards. -/
theorem step_agree (h : AgreeAt i s s') (hst : st.Addressed) (hi : st.concerns i) (depth : Nat) :
    (s.step depth st).1 = (s'.step depth st).1 ∧
      AgreeAt i (s.step depth st).2 (s'.step depth st).2 := by
  obtain ⟨hc, hm⟩ := h
  cases st with
  | act j a =>
    obtain rfl : j = i := by simpa [Step.concerns] using hi
    have ha : a.answer s.contracts depth (s.member j) =
        a.answer s'.contracts depth (s'.member j) := by rw [hc, hm]
    refine ⟨congrArg (·.1) ha, hc, ?_⟩
    simp only [step, withMember_member_self, ha]
  | callThrough | swap => exact hst.elim
  | declare k o sig =>
    refine ⟨rfl, ?_, hm⟩
    simp only [step, hc]
  | describe k ask =>
    refine ⟨?_, hc, hm⟩
    simp only [step, hc]
  | initLog => exact ⟨rfl, hc, hm⟩

/-- **A whole run seen from one instance.**  In sessions that agree at `i`, a sequence of steps and
    the part of it that concerns `i` get the same answers at `i`, and lead to sessions that agree
    there. -/
theorem run_agree (h : AgreeAt i s s') {steps : List (Step U κ D n)}
    (hsteps : ∀ st ∈ steps, st.Addressed) (depth : Nat) :
    (s'.run depth (steps.filter (·.concerns i))).1 = answersAt i steps (s.run depth steps).1 ∧
      AgreeAt i (s.run depth steps).2 (s'.run depth (steps.filter (·.concerns i))).2 := by
  induction steps generalizing s s' with
  | nil => exact ⟨rfl, h⟩
  | cons st rest ih =>
    obtain ⟨hst, hrest⟩ := List.forall_mem_cons.1 hsteps
    by_cases hi : st.concerns i
    · obtain ⟨hanswer, hnext⟩ := step_agree h hst hi depth
      obtain ⟨hanswers, hend⟩ := ih hnext hrest
      rw [List.filter_cons_of_pos hi]
      refine ⟨?_, hend⟩
      rw [run, run, answersAt_cons_of_concerns hi, hanswer, hanswers]
    · -- the other run stays where it is, and still agrees
      have hother := step_other (s := s) hst hi depth
      have hnext : AgreeAt i (s.step depth st).2 s' :=
        ⟨hother.1.trans h.1, hother.2.trans h.2⟩
      obtain ⟨hanswers, hend⟩ := ih hnext hrest
      rw [List.filter_cons_of_neg hi]
      refine ⟨?_, hend⟩
      rw [run, answersAt_cons_of_not_concerns hi, hanswers]

/-- **Instances do not interfere.**  Take any session in which each step is addressed to one
    instance or to a contract.  For every instance, leaving out the steps addressed to the others
    leaves each answer to its own steps, with the events reported there, and its data and tables at
    the end. -/
theorem run_filter_concerns (depth : Nat) (s : Session U κ D n) (steps : List (Step U κ D n))
    (hsteps : ∀ st ∈ steps, st.Addressed) (i : Fin n) :
    let full := s.run depth steps
    let own := s.run depth (steps.filter (·.concerns i))
    own.1 = answersAt i steps full.1 ∧
      (own.2.member i).data = (full.2.member i).data ∧
      (own.2.member i).tables = (full.2.member i).tables ∧
      own.2.contracts = full.2.contracts := by
  intro full own
  have hs : AgreeAt i s s := ⟨rfl, rfl⟩
  obtain ⟨hanswers, hc, hm⟩ := run_agree hs hsteps depth
  exact ⟨hanswers, congrArg (·.data) hm.symm, congrArg (·.tables) hm.symm, hc.symm⟩

/-- Two instances bind, call and clear in turn, while the signatures of their contract change: the
    first one counts as if it were alone. -/
theorem run_filter_concerns_pair :
    let call : Action Bench.types Unit Nat := .invoke () "alpha" (.tuple []) (.base .uint32) ()
    let steps : List (Step Bench.types Unit Nat 2) :=
      [.act 1 (.bind () "alpha" Bench.forwarding), .act 0 (.bind () "beta" Bench.counting),
        .act 1 call, .act 0 (.bind () "alpha" Bench.forwarding), .act 1 (.clear ()), .act 0 call,
        .declare () "alpha" none, .act 1 (.isBound () "beta"), .act 0 call, .act 0 (.inspect ())]
    let own : List (Step Bench.types Unit Nat 2) :=
      [.act 0 (.bind () "beta" Bench.counting), .act 0 (.bind () "alpha" Bench.forwarding),
        .act 0 call, .declare () "alpha" none, .act 0 call, .act 0 (.inspect ())]
    let full := Bench.pair.run 1 steps
    (Bench.pair.run 1 own).1 = answersAt 0 steps full.1 ∧ (full.2.member 0).data = 4 ∧
      ((Bench.pair.run 1 own).2.member 0).tables = (full.2.member 0).tables := by
  intro call steps own full
  obtain ⟨hanswers, hdata, htables, -⟩ := run_filter_concerns 1 Bench.pair steps (by decide) 0
  have hown : ((Bench.pair.run 1 own).2.member 0).data = 4 := by decide +kernel
  exact ⟨hanswers, hdata.symm.trans hown, htables⟩

end Session

end Switchboard
