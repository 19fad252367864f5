/-
  Tables: one slot per operation of a contract.

  A slot is empty or holds a routine together with the types it was bound with (`Binding`).
  Binding checks the name, then the signature, and fills the slot at the name's first position
  (`Table.install`).  Looking up checks the name, the slot, the signature, and last that the slot was
  bound with the very types of the call (`Table.lookup`); the last check matters where a signature
  has changed since.

  * `install_eq_ok_iff` and `lookup_eq_ok_iff` say when they succeed and with what;
  * `Table.bind` and `Table.call` are the two with their events;
  * `Table.isBound`, `Table.boundOperations`, `Table.isComplete` and `Table.size` are the queries.
-/
import Switchboard.Contract
import Switchboard.Routine

namespace Switchboard

variable {U : Universe}

/-- A routine with the types it is bound with. -/
structure Binding (U : Universe) (κ D : Type) where
  params : Ty U
  ret : Ty U
  body : params.Val → Routine U κ D ret.Val

/-- The slots of a contract's operations, in the order of the operations. -/
structure Table (U : Universe) (κ D : Type) where
  slots : List (Option (Binding U κ D))

namespace Binding

variable {κ D : Type}

/-- The routine of a binding, if `A` and `R` are the types it was bound with. -/
def at? (b : Binding U κ D) (A R : Ty U) : Option (A.Val → Routine U κ D R.Val) :=
  if hA : b.params = A then
    if hR : b.ret = R then some (hA ▸ hR ▸ b.body) else none
  else none

@[simp]
theorem at?_self (A R : Ty U) (f : A.Val → Routine U κ D R.Val) :
    (⟨A, R, f⟩ : Binding U κ D).at? A R = some f := by
  simp [at?]

theorem at?_eq_some_iff {b : Binding U κ D} {A R : Ty U} {f : A.Val → Routine U κ D R.Val} :
    b.at? A R = some f ↔ b = ⟨A, R, f⟩ := by
  constructor
  · intro h
    rcases b with ⟨A', R', g⟩
    unfold at? at h
    split at h <;> rename_i hA
    · split at h <;> rename_i hR
      · subst hA hR
        cases h
        rfl
      · cases h
    · cases h
  · rintro rfl
    exact at?_self A R f

theorem at?_isSome_iff {b : Binding U κ D} {A R : Ty U} :
    (b.at? A R).isSome ↔ b.params = A ∧ b.ret = R := by
  unfold at?
  split <;> rename_i hA
  · split <;> rename_i hR <;> simp [hA, hR]
  · simp [hA]

end Binding

namespace Table

variable {κ D : Type}

/-- The table of a contract with every slot empty. -/
def empty (c : Contract U) : Table U κ D :=
  ⟨c.operations.map fun _ => none⟩

/-- The binding in the slot at a position. -/
def slot? (t : Table U κ D) (i : Nat) : Option (Binding U κ D) :=
  t.slots[i]?.join

@[simp]
theorem slots_length_empty (c : Contract U) :
    (empty c : Table U κ D).slots.length = c.operations.length := by
  simp [empty]

@[simp]
theorem slot?_empty (c : Contract U) (i : Nat) : (empty c : Table U κ D).slot? i = none := by
  simp only [slot?, empty, List.getElem?_map]
  cases c.operations[i]? <;> rfl

theorem slot?_set_self {t : Table U κ D} {i : Nat} (h : i < t.slots.length) (b : Binding U κ D) :
    (⟨t.slots.set i (some b)⟩ : Table U κ D).slot? i = some b := by
  simp [slot?, h]

theorem slot?_set_other (t : Table U κ D) {i j : Nat} (h : i ≠ j) (b : Binding U κ D) :
    (⟨t.slots.set i (some b)⟩ : Table U κ D).slot? j = t.slot? j := by
  simp [slot?, h]

/-- A slot that is filled after some slot was filled holds the new binding or what it held before. -/
theorem slot?_set_cases {t : Table U κ D} {i p : Nat} {b b' : Binding U κ D}
    (h : (⟨t.slots.set p (some b)⟩ : Table U κ D).slot? i = some b') :
    (i = p ∧ b' = b) ∨ t.slot? i = some b' := by
  by_cases hi : p = i
  · subst hi
    by_cases hp : p < t.slots.length
    · rw [slot?_set_self hp] at h
      exact Or.inl ⟨rfl, (Option.some.inj h).symm⟩
    · rw [List.set_eq_of_length_le (Nat.le_of_not_lt hp)] at h
      exact Or.inr h
  · rw [slot?_set_other t hi] at h
    exact Or.inr h

/-! ## Binding -/

/-- Fill the slot of `o`: the new table, and whether the slot was filled before. -/
def install (c : Contract U) (t : Table U κ D) (o : String) (b : Binding U κ D) :
    Except Failure (Table U κ D × Bool) :=
  match c.resolve o with
  | .error e => .error e
  | .ok i =>
    match c.check o b.params b.ret with
    | .error e => .error e
    | .ok () => .ok (⟨t.slots.set i (some b)⟩, (t.slot? i).isSome)

/-- Binding succeeds for a listed name signed with the types of the binding, fills the slot at the
    name's position and leaves the others. -/
theorem install_eq_ok_iff {c : Contract U} {t t' : Table U κ D} {o : String} {b : Binding U κ D}
    {replaced : Bool} :
    t.install c o b = .ok (t', replaced) ↔
      ∃ i, c.position? o = some i ∧ c.check o b.params b.ret = .ok () ∧
        t' = ⟨t.slots.set i (some b)⟩ ∧ replaced = (t.slot? i).isSome := by
  unfold install
  constructor
  · intro h
    split at h
    · cases h
    · rename_i i hi
      split at h
      · cases h
      · rename_i hc
        cases h
        exact ⟨i, Contract.resolve_eq_ok_iff.1 hi, hc, rfl, rfl⟩
  · rintro ⟨i, hi, hc, rfl, rfl⟩
    simp [Contract.resolve_eq_ok_iff.2 hi, hc]

/-- Fill the slot of `o` and report it; a refused binding changes and reports nothing. -/
def bind (c : Contract U) (o : String) (b : Binding U κ D) :
    Effect (Table U κ D) (Except Failure Unit) := fun t =>
  match t.install c o b with
  | .error e => ⟨.returned (.error e), t, []⟩
  | .ok (t', replaced) => ⟨.returned (.ok ()), t', [.bound c.name o replaced]⟩

/-! ## Calling -/

/-- The routine that a call of `o` at the types `A` and `R` runs. -/
def lookup (c : Contract U) (t : Table U κ D) (o : String) (A R : Ty U) :
    Except Failure (A.Val → Routine U κ D R.Val) :=
  match c.resolve o with
  | .error e => .error e
  | .ok i =>
    match t.slot? i with
    | none => .error (.unbound c.name o)
    | some b =>
      match c.check o A R with
      | .error e => .error e
      | .ok () =>
        match b.at? A R with
        | none => .error (c.mismatch o "<unknown>" A R)
        | some body => .ok body

/-- A call runs a routine if the name is listed and signed with the types of the call, and its slot
    was bound with the same types; the routine is then the one in the slot. -/
theorem lookup_eq_ok_iff {c : Contract U} {t : Table U κ D} {o : String} {A R : Ty U}
    {f : A.Val → Routine U κ D R.Val} :
    t.lookup c o A R = .ok f ↔
      ∃ i, c.position? o = some i ∧ t.slot? i = some ⟨A, R, f⟩ ∧ c.check o A R = .ok () := by
  unfold lookup
  constructor
  · intro h
    split at h
    · cases h
    · rename_i i hi
      split at h
      · cases h
      · rename_i b hb
        split at h
        · cases h
        · rename_i hc
          split at h
          · cases h
          · rename_i g hg
            cases h
            exact ⟨i, Contract.resolve_eq_ok_iff.1 hi, Binding.at?_eq_some_iff.1 hg ▸ hb, hc⟩
  · rintro ⟨i, hi, hb, hc⟩
    simp [Contract.resolve_eq_ok_iff.2 hi, hb, hc]

/-- Call `o` at the types `A` and `R`, carrying out the routine's own calls by `dispatch`. -/
def call (c : Contract U) (t : Table U κ D) (dispatch : Dispatch U κ D) (o : String) (A R : Ty U)
    (args : A.Val) : Effect D (Except Failure R.Val) :=
  match t.lookup c o A R with
  | .error e => do
    Effect.emit (.rejected c.name o e)
    return .error e
  | .ok body => do
    Effect.emit (.invoking c.name o)
    let r ← (body args).exec dispatch
    return .ok r

/-! ## Queries -/

/-- Whether the slot of `o` is filled. -/
def isBound (c : Contract U) (t : Table U κ D) (o : String) : Except Failure Bool :=
  (c.resolve o).map fun i => (t.slot? i).isSome

/-- The operations whose slots are filled, in order. -/
def boundOperations (c : Contract U) (t : Table U κ D) : List String :=
  ((c.operations.zip t.slots).filter (·.2.isSome)).map (·.1)

/-- Whether every slot is filled. -/
def isComplete (t : Table U κ D) : Bool :=
  t.slots.all (·.isSome)

/-- The number of slots. -/
def size (t : Table U κ D) : Nat :=
  t.slots.length

/-- Whether there are no slots. -/
def isEmpty (t : Table U κ D) : Bool :=
  t.slots.isEmpty

/-- The text of a table: the contract's name and the filled operations. -/
def detail (c : Contract U) (t : Table U κ D) : String :=
  s!"DispatchTable \x7b contract: {quoted c.name}, bound: {quotedList (t.boundOperations c)} \x7d"

end Table

end Switchboard
