/-
  Behaviours: routines of a few kinds, to be bound on the bench at any types.

  What adding, reading and writing mean depends on the data of the instance (`Host`).  A behaviour
  becomes a binding once its types are known (`Behaviour.binding`).
-/
import Switchboard.Bench.Sample
import Switchboard.Table

namespace Switchboard.Bench

/-- Data on which behaviours can work. -/
class Host (κ D : Type) where
  /-- The number that marks an instance. -/
  serial : D → Nat
  /-- Add a number and give the number to show. -/
  add : UInt64 → Routine types κ D UInt64
  /-- Give a text. -/
  read : Routine types κ D String
  /-- Write a text. -/
  write : String → Routine types κ D (Except StreamError Unit)

/-- A kind of routine with results in `R`. -/
inductive Behaviour (κ : Type) (R : Ty types) where
  /-- Give a value. -/
  | const (value : R.Val)
  /-- Tell the tag, the instance and the arguments. -/
  | text (tag : String)
  /-- Add the first argument. -/
  | add
  | read
  /-- Write the tag and the arguments. -/
  | write (tag : String)
  /-- Call an operation of the same instance and tell its result. -/
  | forward (k : κ) (o : String) (A Q : Ty types) (args : A.Val)

namespace Behaviour

variable {κ D : Type} [Host κ D] {R : Ty types}

/-- The routine of a behaviour for given arguments. -/
def body (A : Ty types) (args : A.Val) : Behaviour κ R → Routine types κ D R.Val
  | const value => return value
  | text tag => .get fun d => return R.ofText s!"{tag}#{Host.serial κ d}({A.render args})"
  | add => do
    let n ← Host.add (A.number args)
    return R.ofNumber n
  | read => do
    let s ← Host.read
    return R.ofText s
  | write tag => do
    let r ← Host.write (tag ++ A.render args)
    return R.ofWritten r
  | forward k o P Q given => do
    match ← Routine.invoke k o P Q given with
    | .ok value => return R.ofText (Q.render value)
    | .error e => return R.ofText ("!" ++ e.message)

/-- A behaviour bound with the parameter type `A`. -/
def binding (A : Ty types) (b : Behaviour κ R) : Binding types κ D :=
  ⟨A, R, fun args => b.body A args⟩

end Behaviour

end Switchboard.Bench
