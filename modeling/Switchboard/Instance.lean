/-
  Instances: data with one table per contract.

  Contracts are known by keys in `κ`, and `contracts k` is the contract of key `k` as it stands now.
  A call goes through the instance's own table, and the calls its routine makes go through the
  same instance's tables again.  Such nesting has no bound of its own, so calls are carried out
  with a depth (`Instance.dispatch`): a call nested more deeply ends as `Outcome.exhausted`.

  * `Instance.bind`, `Instance.perform` and `Instance.invoke` act on an instance;
  * `Instance.callThrough` calls through a table that need not be the instance's own;
    `invoke_eq_callThrough` says that a plain call is the case where it is.
-/
import Switchboard.Table

namespace Switchboard

variable {U : Universe}

/-- Data of type `D` with a table for each contract. -/
structure Instance (U : Universe) (κ D : Type) where
  data : D
  tables : κ → Table U κ D

namespace Instance

variable {κ D ρ : Type}

/-- Data with every table empty. -/
def fresh (contracts : κ → Contract U) (data : D) : Instance U κ D :=
  ⟨data, fun k => .empty (contracts k)⟩

/-- The instance with one table replaced. -/
def withTable [DecidableEq κ] (x : Instance U κ D) (k : κ) (t : Table U κ D) : Instance U κ D :=
  { x with tables := fun k' => if k' = k then t else x.tables k' }

@[simp]
theorem withTable_tables_self [DecidableEq κ] (x : Instance U κ D) (k : κ) (t : Table U κ D) :
    (x.withTable k t).tables k = t := by
  simp [withTable]

theorem withTable_tables_other [DecidableEq κ] (x : Instance U κ D) {k k' : κ} (t : Table U κ D)
    (h : k' ≠ k) : (x.withTable k t).tables k' = x.tables k' := by
  simp [withTable, h]

/-- Putting back the table that was there changes nothing. -/
@[simp]
theorem withTable_self [DecidableEq κ] (x : Instance U κ D) (k : κ) :
    x.withTable k (x.tables k) = x := by
  rcases x with ⟨data, tables⟩
  simp only [withTable, mk.injEq, true_and]
  funext k'
  split <;> simp_all

/-! ## Calls -/

/-- Carry out calls through the given tables, nested at most `depth` deep. -/
def dispatch (contracts : κ → Contract U) (tables : κ → Table U κ D) :
    (depth : Nat) → Dispatch U κ D
  | 0 => fun _ _ _ _ _ => Effect.exhaust
  | depth + 1 => fun k o A R args =>
    (tables k).call (contracts k) (dispatch contracts tables depth) o A R args

/-- Act on the data of an instance. -/
def onData (x : Effect D ρ) : Effect (Instance U κ D) ρ :=
  Effect.zoom (·.data) (fun data x => { x with data }) x

/-- Run a routine on an instance, its calls going through the instance's tables. -/
def perform (contracts : κ → Contract U) (depth : Nat) (r : Routine U κ D ρ) :
    Effect (Instance U κ D) ρ := fun x =>
  onData (r.exec (dispatch contracts x.tables depth)) x

/-- Call an operation through the instance's own table. -/
def invoke (contracts : κ → Contract U) (depth : Nat) (k : κ) (o : String) (A R : Ty U)
    (args : A.Val) : Effect (Instance U κ D) (Except Failure R.Val) :=
  perform contracts (depth + 1) (.invoke k o A R args)

/-- Call an operation on an instance through the table `t`.  The routine sees the instance's data,
    and its own calls go through the instance's tables. -/
def callThrough (contracts : κ → Contract U) (depth : Nat) (t : Table U κ D) (k : κ) (o : String)
    (A R : Ty U) (args : A.Val) : Effect (Instance U κ D) (Except Failure R.Val) := fun x =>
  onData (t.call (contracts k) (dispatch contracts x.tables depth) o A R args) x

/-- Calling is calling through the instance's own table. -/
theorem invoke_eq_callThrough (contracts : κ → Contract U) (depth : Nat) (k : κ) (o : String)
    (A R : Ty U) (args : A.Val) (x : Instance U κ D) :
    invoke contracts depth k o A R args x =
      callThrough contracts depth (x.tables k) k o A R args x := by
  simp [invoke, perform, callThrough, Routine.invoke, Routine.exec, dispatch]

/-! ## Binding -/

variable [DecidableEq κ]

/-- Act on one table of an instance. -/
def onTable (k : κ) (x : Effect (Table U κ D) ρ) : Effect (Instance U κ D) ρ :=
  Effect.zoom (·.tables k) (fun t x => x.withTable k t) x

/-- Bind a routine to an operation in the instance's table. -/
def bind (contracts : κ → Contract U) (k : κ) (o : String) (b : Binding U κ D) :
    Effect (Instance U κ D) (Except Failure Unit) :=
  onTable k (Table.bind (contracts k) o b)

/-- Replace the table of a contract by an empty one. -/
def clear (contracts : κ → Contract U) (k : κ) (x : Instance U κ D) : Instance U κ D :=
  x.withTable k (.empty (contracts k))

end Instance

end Switchboard
