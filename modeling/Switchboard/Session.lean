/-
  Sessions: steps on a fixed number of instances that share their contracts.

  A step is an action on one instance, a call through one instance's table on another instance, an
  exchange of two tables, or a change or description of a contract.  A refused step changes nothing
  and the session goes on.

  * `Action.apply` is what an action does to its instance;
  * `Session.step` is one step, `Session.run` a sequence of them with the answer to each.
-/
import Switchboard.Instance

namespace Switchboard

variable {U : Universe}

/-! ## Reports -/

/-- What a table tells about itself. -/
structure TableReport where
  bound : List String
  complete : Bool
  size : Nat
  isEmpty : Bool
  detail : String

/-- What a contract tells about itself, with the signatures of its operations and of the names asked
    for. -/
structure Description where
  name : String
  operations : List String
  unique : Bool
  signatures : List (Option String)
  asked : List (Option String)

/-- The report of a table. -/
def Table.report {κ D : Type} (c : Contract U) (t : Table U κ D) : TableReport :=
  ⟨t.boundOperations c, t.isComplete, t.size, t.isEmpty, t.detail c⟩

/-- The description of a contract. -/
def Contract.describe (c : Contract U) (ask : List String) : Description :=
  let shown := fun o => (c.signature o).map (·.text)
  ⟨c.name, c.operations, distinct c.operations, c.operations.map shown, ask.map shown⟩

/-- What a step gives. -/
inductive Reply (U : Universe) where
  /-- Nothing but that it was done. -/
  | done
  /-- The result of a call. -/
  | value (R : Ty U) (v : R.Val)
  /-- The answer to a question. -/
  | flag (b : Bool)
  /-- A line that was written. -/
  | line (s : String)
  | report (r : TableReport)
  | description (d : Description)

/-- The answer to a step: how it ended, the events it reported, and for a binding the text of the
    table afterwards. -/
structure Answer (α : Type) where
  outcome : Outcome α
  events : List Event
  table : Option String

/-! ## Actions on one instance -/

/-- What can be done to an instance. -/
inductive Action (U : Universe) (κ D : Type) where
  | bind (k : κ) (o : String) (b : Binding U κ D)
  | invoke (k : κ) (o : String) (A R : Ty U) (args : A.Val)
  | isBound (k : κ) (o : String)
  | inspect (k : κ)
  | clear (k : κ)
  /-- Run a routine that gives a line. -/
  | perform (r : Routine U κ D (Except Failure String))

namespace Action

variable {κ D : Type}

/-- The call of a declared operation, at the types of its declaration. -/
def generated (k : κ) (d : Declaration U) (args : Ty.Tuple d.params) : Action U κ D :=
  invoke k d.name (.tuple d.params) d.ret args

/-- The table whose text belongs to the answer. -/
def shownTable : Action U κ D → Option κ
  | bind k _ _ => some k
  | _ => none

/-- What an action does to its instance. -/
def apply [DecidableEq κ] (contracts : κ → Contract U) (depth : Nat) :
    Action U κ D → Effect (Instance U κ D) (Except Failure (Reply U))
  | bind k o b => do
    let r ← Instance.bind contracts k o b
    return r.map fun _ => .done
  | invoke k o A R args => do
    let r ← Instance.invoke contracts depth k o A R args
    return r.map (.value R)
  | isBound k o => fun x => ⟨.returned (((x.tables k).isBound (contracts k) o).map .flag), x, []⟩
  | inspect k => fun x => ⟨.returned (.ok (.report ((x.tables k).report (contracts k)))), x, []⟩
  | clear k => fun x => ⟨.returned (.ok .done), x.clear contracts k, []⟩
  | perform r => do
    let line ← Instance.perform contracts (depth + 1) r
    return line.map .line

/-- The answer to an action, and the instance after it. -/
def answer [DecidableEq κ] (contracts : κ → Contract U) (depth : Nat) (a : Action U κ D)
    (x : Instance U κ D) : Answer (Except Failure (Reply U)) × Instance U κ D :=
  let r := a.apply contracts depth x
  (⟨r.outcome, r.events, a.shownTable.map fun k => (r.state.tables k).detail (contracts k)⟩, r.state)

end Action

/-! ## Steps -/

/-- `n` instances and the contracts they share. -/
structure Session (U : Universe) (κ D : Type) (n : Nat) where
  contracts : κ → Contract U
  members : Vector (Instance U κ D) n

/-- A step of a session of `n` instances. -/
inductive Step (U : Universe) (κ D : Type) (n : Nat) where
  /-- An action on an instance. -/
  | act (i : Fin n) (a : Action U κ D)
  /-- A call on instance `j` through the table of instance `i`. -/
  | callThrough (i j : Fin n) (k : κ) (o : String) (A R : Ty U) (args : A.Val)
  /-- An exchange of two instances' tables for a contract. -/
  | swap (i j : Fin n) (k : κ)
  /-- A change of the signature of one name of a contract. -/
  | declare (k : κ) (o : String) (s : Option (Signature U))
  /-- A description of a contract. -/
  | describe (k : κ) (ask : List String)
  /-- Diagnostics are set up once; setting them up again changes nothing. -/
  | initLog

namespace Session

variable {κ D : Type} {n : Nat} [DecidableEq κ]

/-- Fresh instances of the given data. -/
def start (contracts : κ → Contract U) (data : Vector D n) : Session U κ D n :=
  ⟨contracts, data.map (Instance.fresh contracts)⟩

/-- An instance of a session. -/
def member (s : Session U κ D n) (i : Fin n) : Instance U κ D :=
  s.members.get i

/-- The session with one instance replaced. -/
def withMember (s : Session U κ D n) (i : Fin n) (x : Instance U κ D) : Session U κ D n :=
  { s with members := s.members.set i x }

omit [DecidableEq κ] in
@[simp]
theorem start_member (contracts : κ → Contract U) (data : Vector D n) (i : Fin n) :
    (start contracts data).member i = .fresh contracts (data.get i) := by
  show (data.map (Instance.fresh contracts))[i] = .fresh contracts data[i]
  simp

omit [DecidableEq κ] in
@[simp]
theorem withMember_member_self (s : Session U κ D n) (i : Fin n) (x : Instance U κ D) :
    (s.withMember i x).member i = x := by
  show (s.members.set i x)[i] = x
  simp

omit [DecidableEq κ] in
theorem withMember_member_other (s : Session U κ D n) {i j : Fin n} (h : j ≠ i)
    (x : Instance U κ D) : (s.withMember i x).member j = s.member j := by
  have : (i : Nat) ≠ j := fun he => h (Fin.ext he.symm)
  show (s.members.set i x)[j] = s.members[j]
  simp [this]

omit [DecidableEq κ] in
/-- Putting back the instance that was there changes nothing. -/
@[simp]
theorem withMember_self (s : Session U κ D n) (i : Fin n) : s.withMember i (s.member i) = s := by
  show { s with members := s.members.set i s.members[i] } = s
  simp

/-- One step: the answer, and the session after it. -/
def step (depth : Nat) (s : Session U κ D n) :
    Step U κ D n → Answer (Except Failure (Reply U)) × Session U κ D n
  | .act i a =>
    let r := a.answer s.contracts depth (s.member i)
    (r.1, s.withMember i r.2)
  | .callThrough i j k o A R args =>
    let call := Instance.callThrough s.contracts depth ((s.member i).tables k) k o A R args
    let replies : Effect (Instance U κ D) (Except Failure (Reply U)) := (·.map (.value R)) <$> call
    let r := replies (s.member j)
    (⟨r.outcome, r.events, none⟩, s.withMember j r.state)
  | .swap i j k =>
    let ti := (s.member i).tables k
    let tj := (s.member j).tables k
    let s' := s.withMember i ((s.member i).withTable k tj)
    (⟨.returned (.ok .done), [], none⟩, s'.withMember j ((s'.member j).withTable k ti))
  | .declare k o sig =>
    let c := (s.contracts k).redeclare o sig
    (⟨.returned (.ok .done), [], none⟩,
      { s with contracts := fun k' => if k' = k then c else s.contracts k' })
  | .describe k ask => (⟨.returned (.ok (.description ((s.contracts k).describe ask))), [], none⟩, s)
  | .initLog => (⟨.returned (.ok .done), [], none⟩, s)

/-- A sequence of steps: the answer to each, and the session at the end. -/
def run (depth : Nat) (s : Session U κ D n) :
    List (Step U κ D n) → List (Answer (Except Failure (Reply U))) × Session U κ D n
  | [] => ([], s)
  | st :: rest =>
    let first := s.step depth st
    let others := run depth first.2 rest
    (first.1 :: others.1, others.2)

end Session

end Switchboard
