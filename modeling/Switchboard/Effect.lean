/-
  Effects: computations on a state that report events and may not return.

  Running an effect on a state gives an outcome, the state afterwards and the events reported, in
  order (`Run`).  The state and the events are there whatever the outcome: a panic undoes nothing.

  * `Run.andThen` continues a run that returned; its equations are `andThen_returned`,
    `andThen_panicked` and `andThen_exhausted`, and it is associative (`andThen_assoc`);
  * effects are a lawful monad.
-/
import Switchboard.Event

namespace Switchboard

/-- How a computation ended. -/
inductive Outcome (α : Type) where
  /-- It returned a value. -/
  | returned (value : α)
  /-- It was stopped by a panic. -/
  | panicked (message : String)
  /-- Its calls were nested more deeply than allowed. -/
  | exhausted
  deriving DecidableEq

/-- Whether a panic ended it. -/
def Outcome.isPanic {α : Type} : Outcome α → Bool
  | panicked _ => true
  | _ => false

/-- A finished computation: its outcome, the state it left and the events it reported. -/
structure Run (σ α : Type) where
  outcome : Outcome α
  state : σ
  events : List Event

namespace Run

variable {σ α β γ : Type}

/-- A run before which some events were reported. -/
def after (events : List Event) (r : Run σ α) : Run σ α :=
  { r with events := events ++ r.events }

/-- Continue a run that returned, on the state it left; the events of the continuation follow. -/
def andThen (r : Run σ α) (f : α → σ → Run σ β) : Run σ β :=
  match r.outcome with
  | .returned a => (f a r.state).after r.events
  | .panicked m => ⟨.panicked m, r.state, r.events⟩
  | .exhausted => ⟨.exhausted, r.state, r.events⟩

@[simp]
theorem after_nil (r : Run σ α) : r.after [] = r := rfl

@[simp]
theorem after_after (es es' : List Event) (r : Run σ α) :
    (r.after es').after es = r.after (es ++ es') := by
  simp [after]

@[simp]
theorem andThen_returned (a : α) (s : σ) (es : List Event) (f : α → σ → Run σ β) :
    (⟨.returned a, s, es⟩ : Run σ α).andThen f = (f a s).after es := rfl

@[simp]
theorem andThen_panicked (m : String) (s : σ) (es : List Event) (f : α → σ → Run σ β) :
    (⟨.panicked m, s, es⟩ : Run σ α).andThen f = ⟨.panicked m, s, es⟩ := rfl

@[simp]
theorem andThen_exhausted (s : σ) (es : List Event) (f : α → σ → Run σ β) :
    (⟨.exhausted, s, es⟩ : Run σ α).andThen f = ⟨.exhausted, s, es⟩ := rfl

/-- Events reported before a run stay in front of its continuation. -/
@[simp]
theorem after_andThen (es : List Event) (r : Run σ α) (f : α → σ → Run σ β) :
    (r.after es).andThen f = (r.andThen f).after es := by
  rcases r with ⟨o, s, es'⟩
  cases o <;> simp [after, andThen]

/-- Returning what a run returned continues it without change. -/
theorem andThen_returning (r : Run σ α) : r.andThen (fun a s => ⟨.returned a, s, []⟩) = r := by
  rcases r with ⟨o, s, es⟩
  cases o <;> simp [after, andThen]

theorem andThen_assoc (r : Run σ α) (f : α → σ → Run σ β) (g : β → σ → Run σ γ) :
    (r.andThen f).andThen g = r.andThen fun a s => (f a s).andThen g := by
  rcases r with ⟨o, s, es⟩
  cases o <;> simp

end Run

/-- A computation on a state of type `σ`. -/
def Effect (σ α : Type) : Type :=
  σ → Run σ α

namespace Effect

variable {σ α β : Type}

/-- One effect after another: the second runs if the first returned, on the state it left. -/
instance : Monad (Effect σ) where
  pure a := fun s => ⟨.returned a, s, []⟩
  bind x f := fun s => (x s).andThen f

/-- Report an event. -/
def emit (e : Event) : Effect σ Unit := fun s => ⟨.returned (), s, [e]⟩

/-- Stop with a message. -/
def panic (message : String) : Effect σ α := fun s => ⟨.panicked message, s, []⟩

/-- Stop because calls are nested too deeply. -/
def exhaust : Effect σ α := fun s => ⟨.exhausted, s, []⟩

/-- Act on a part of the state. -/
def zoom {τ : Type} (get : τ → σ) (put : σ → τ → τ) (x : Effect σ α) : Effect τ α := fun t =>
  let r := x (get t)
  ⟨r.outcome, put r.state t, r.events⟩

theorem pure_run (a : α) (s : σ) : (pure a : Effect σ α) s = ⟨.returned a, s, []⟩ := rfl

theorem bind_run (x : Effect σ α) (f : α → Effect σ β) (s : σ) : (x >>= f) s = (x s).andThen f := rfl

/-- Reporting an event and going on puts the event in front. -/
theorem emit_bind (e : Event) (f : Unit → Effect σ β) (s : σ) :
    (emit e >>= f) s = (f () s).after [e] := rfl

instance : LawfulMonad (Effect σ) := LawfulMonad.mk' (Effect σ)
  (fun x => funext fun s => (x s).andThen_returning)
  (fun _ _ => rfl)
  (fun x f g => funext fun s => (x s).andThen_assoc f g)

end Effect

end Switchboard
