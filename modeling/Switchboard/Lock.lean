/-
  Locks.

  A lock guards a value.  A panic that ends a computation while it holds the lock poisons it, and it
  stays poisoned.  Taking a poisoned lock does not give the value but an error that has the value
  inside (`Poisoned`), so that it is for the one who takes the lock to stop there or to go on with
  the value all the same (`Lock.recover`).

  * `recover_take`: what is recovered is the value, whether the lock is poisoned or not.
-/
namespace Switchboard

/-- A lock and the value that it guards. -/
structure Lock (α : Type) where
  value : α
  /-- Whether a panic ended a computation that held the lock. -/
  poisoned : Bool
  deriving DecidableEq

/-- The error of taking a poisoned lock. -/
structure Poisoned (α : Type) where
  inner : α

namespace Lock

variable {α : Type}

/-- A lock that nobody took yet. -/
def new (value : α) : Lock α := ⟨value, false⟩

/-- Take the lock: the value, inside an error if the lock is poisoned. -/
def take (l : Lock α) : Except (Poisoned α) α :=
  if l.poisoned then .error ⟨l.value⟩ else .ok l.value

/-- Go on with the value, also from the error. -/
def recover : Except (Poisoned α) α → α
  | .ok value => value
  | .error p => p.inner

/-- Give the lock back with the value as it is now.  A panic poisons it, and nothing heals it. -/
def release (l : Lock α) (value : α) (panicking : Bool) : Lock α :=
  ⟨value, l.poisoned || panicking⟩

@[simp]
theorem recover_take (l : Lock α) : recover l.take = l.value := by
  unfold take
  split <;> rfl

/-- Giving a lock back as it was changes nothing. -/
@[simp]
theorem release_value (l : Lock α) : l.release l.value false = l := by
  simp [release]

end Lock

end Switchboard
