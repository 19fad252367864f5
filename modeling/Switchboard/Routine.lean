/-
  Routines: what is bound to an operation.

  A routine is a program over the data of the instance it is called on.  It may look at the data,
  change them, report events, panic, and call operations of the same instance by name and types;
  the tables of the instance it cannot touch.  A routine does not say how its calls are carried out:
  that is given when it runs (`Routine.exec`).

  * `Routine.exec_bind`: running one routine after another is one run after the other.
-/
import Switchboard.Effect
import Switchboard.Value.Ty

namespace Switchboard

variable {U : Universe}

/-- A program over data `D` that may call the operations of contracts with keys in `κ`. -/
inductive Routine (U : Universe) (κ D : Type) (ρ : Type) : Type where
  /-- Return a value. -/
  | done (value : ρ)
  /-- Stop with a message. -/
  | panic (message : String)
  /-- Look at the data. -/
  | get (next : D → Routine U κ D ρ)
  /-- Replace the data. -/
  | set (data : D) (next : Routine U κ D ρ)
  /-- Report an event. -/
  | emit (event : Event) (next : Routine U κ D ρ)
  /-- Call an operation at given types, and go on with its result or the refusal. -/
  | call (contract : κ) (operation : String) (A R : Ty U) (args : A.Val)
      (next : Except Failure R.Val → Routine U κ D ρ)

/-- How calls are carried out: for each contract, operation and types, an effect on the data. -/
abbrev Dispatch (U : Universe) (κ D : Type) : Type :=
  (contract : κ) → (operation : String) → (A R : Ty U) → A.Val →
    Effect D (Except Failure R.Val)

namespace Routine

variable {κ D ρ ρ' : Type}

protected def bind : Routine U κ D ρ → (ρ → Routine U κ D ρ') → Routine U κ D ρ'
  | done r, f => f r
  | panic m, _ => panic m
  | get next, f => get fun d => (next d).bind f
  | set d next, f => set d (next.bind f)
  | emit e next, f => emit e (next.bind f)
  | call k o A R args next, f => call k o A R args fun r => (next r).bind f

instance : Monad (Routine U κ D) where
  pure := done
  bind := Routine.bind

/-- The effect of a routine whose calls are carried out by `dispatch`. -/
def exec (dispatch : Dispatch U κ D) : Routine U κ D ρ → Effect D ρ
  | done r => pure r
  | panic m => Effect.panic m
  | get next => fun d => (next d).exec dispatch d
  | set d next => fun _ => next.exec dispatch d
  | emit e next => do
    Effect.emit e
    next.exec dispatch
  | call k o A R args next => do
    let r ← dispatch k o A R args
    (next r).exec dispatch

/-- Call an operation and give its result. -/
def invoke (k : κ) (o : String) (A R : Ty U) (args : A.Val) :
    Routine U κ D (Except Failure R.Val) :=
  call k o A R args done

/-- **One routine after another is one run after the other.** -/
theorem exec_bind (dispatch : Dispatch U κ D) (x : Routine U κ D ρ) (f : ρ → Routine U κ D ρ') :
    (x >>= f).exec dispatch = x.exec dispatch >>= fun r => (f r).exec dispatch := by
  show (x.bind f).exec dispatch = _
  induction x with
  | done r => simp [Routine.bind, exec]
  | panic m => rfl
  | get next ih =>
    funext d
    simp only [Routine.bind, exec, ih]
    rfl
  | set d next ih =>
    funext d'
    simp only [Routine.bind, exec, ih]
    rfl
  | emit e next ih => simp [Routine.bind, exec, ih]
  | call k o A R args next ih => simp [Routine.bind, exec, ih]

end Routine

end Switchboard
