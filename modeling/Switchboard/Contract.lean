/-
  Contracts: named lists of typed operations.

  A contract lists operation names in order and gives each a signature.  Declared contracts
  (`Contract.ofDeclarations`) give one to exactly the names they list; a contract made by hand may
  list a name twice, list a name without signature, sign a name it does not list, and have its
  signatures changed (`Contract.redeclare`).  A name stands for the first position at which it is
  listed (`Contract.position?`).

  * `distinct` decides, byte by byte, whether all names of a list differ;
  * `Contract.check` compares the types of a binding or call with the signature of its operation;
    `check_eq_ok_iff` says when it passes;
  * `position?_eq_some_iff`: a position is that of a name if the name stands there and nowhere before.
-/
import Switchboard.Signature
import Switchboard.Failure

namespace Switchboard

variable {U : Universe}

/-- A named list of operations, and the signatures known for names. -/
structure Contract (U : Universe) where
  name : String
  operations : List String
  signature : String → Option (Signature U)

/-- A declared operation: its name, its parameter types and its result type. -/
structure Declaration (U : Universe) where
  name : String
  params : List (Ty U) := []
  ret : Ty U := .unit

namespace Declaration

/-- The signature of a declared operation, which takes its parameters as a tuple. -/
def signature (d : Declaration U) : Signature U :=
  .of (.tuple d.params) d.ret

end Declaration

/-! ## Distinct names -/

/-- Whether two byte sequences are equal, compared byte by byte. -/
def sameBytes : Bytes → Bytes → Bool
  | [], [] => true
  | a :: as, b :: bs => a == b && sameBytes as bs
  | _, _ => false

theorem sameBytes_iff {as bs : Bytes} : sameBytes as bs ↔ as = bs := by
  induction as generalizing bs with
  | nil => cases bs <;> simp [sameBytes]
  | cons a as ih => cases bs <;> simp [sameBytes, ih]

/-- Whether all names differ: each is compared with those after it. -/
def distinct : List String → Bool
  | [] => true
  | name :: rest => rest.all (fun other => !sameBytes (utf8 name) (utf8 other)) && distinct rest

namespace Contract

/-! ## Making and changing contracts -/

/-- The contract that declares the given operations. -/
def ofDeclarations (name : String) (ds : List (Declaration U)) : Contract U where
  name
  operations := ds.map (·.name)
  signature o := (ds.find? (·.name == o)).map (·.signature)

/-- The contract with the signature of one name replaced or removed. -/
def redeclare (c : Contract U) (o : String) (s : Option (Signature U)) : Contract U :=
  { c with signature := fun o' => if o' = o then s else c.signature o' }

@[simp]
theorem redeclare_signature_self (c : Contract U) (o : String) (s : Option (Signature U)) :
    (c.redeclare o s).signature o = s := by
  simp [redeclare]

theorem redeclare_signature_other (c : Contract U) {o o' : String} (s : Option (Signature U))
    (h : o' ≠ o) : (c.redeclare o s).signature o' = c.signature o' := by
  simp [redeclare, h]

/-- Saying again what is signed changes nothing. -/
theorem redeclare_of_signature {c : Contract U} {o : String} {s : Option (Signature U)}
    (h : c.signature o = s) : c.redeclare o s = c := by
  rcases c with ⟨name, operations, signature⟩
  simp only [redeclare, mk.injEq, true_and]
  funext o'
  split
  · rename_i ho
    rw [ho]; exact h.symm
  · rfl

/-! ## Names and types -/

/-- The first position at which an operation is listed. -/
def position? (c : Contract U) (o : String) : Option Nat :=
  c.operations.findIdx? (· == o)

theorem position?_eq_some_iff {c : Contract U} {o : String} {i : Nat} :
    c.position? o = some i ↔
      c.operations[i]? = some o ∧ ∀ j < i, c.operations[j]? ≠ some o := by
  simp only [position?, List.findIdx?_eq_some_iff_getElem, beq_iff_eq]
  constructor
  · rintro ⟨h, hi, hj⟩
    refine ⟨by simp [h, hi], fun j hji => ?_⟩
    have := hj j hji
    simpa [Nat.lt_trans hji h] using this
  · rintro ⟨hi, hj⟩
    obtain ⟨h, hi⟩ := List.getElem?_eq_some_iff.1 hi
    refine ⟨h, hi, fun j hji => ?_⟩
    have := hj j hji
    simpa [Nat.lt_trans hji h] using this

theorem position?_isSome_iff {c : Contract U} {o : String} :
    (c.position? o).isSome ↔ o ∈ c.operations := by
  simp [position?]

/-- A position lies in the list of operations. -/
theorem position?_lt {c : Contract U} {o : String} {i : Nat} (h : c.position? o = some i) :
    i < c.operations.length :=
  (List.getElem?_eq_some_iff.1 (position?_eq_some_iff.1 h).1).1

/-- The position of an operation; a name that is not listed violates the contract. -/
def resolve (c : Contract U) (o : String) : Except Failure Nat :=
  match c.position? o with
  | some i => .ok i
  | none => .error (.violation c.name o)

/-- The failure of using `o` at the types `A` and `R` where others are expected. -/
def mismatch (c : Contract U) (o : String) (expected : String) (A R : Ty U) : Failure :=
  .mismatch c.name o expected (Signature.of A R).text

/-- Compare the types `A` and `R` with the signature of `o`; a name without one violates the
    contract. -/
def check (c : Contract U) (o : String) (A R : Ty U) : Except Failure Unit :=
  match c.signature o with
  | none => .error (.violation c.name o)
  | some s => if s.agrees (.of A R) then .ok () else .error (c.mismatch o s.text A R)

theorem resolve_eq_ok_iff {c : Contract U} {o : String} {i : Nat} :
    c.resolve o = .ok i ↔ c.position? o = some i := by
  unfold resolve
  cases c.position? o <;> simp

/-- The types pass if the name is signed with exactly these. -/
theorem check_eq_ok_iff {c : Contract U} {o : String} {A R : Ty U} :
    c.check o A R = .ok () ↔ ∃ s, c.signature o = some s ∧ s.params = A ∧ s.ret = R := by
  unfold check
  cases h : c.signature o with
  | none => simp
  | some s =>
    by_cases hs : s.agrees (.of A R)
    · simp [hs, Signature.agrees_of_iff.1 hs]
    · have := mt Signature.agrees_of_iff.2 hs
      simp [hs, this]

end Contract

end Switchboard
