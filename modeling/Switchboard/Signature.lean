/-
  Signatures of operations.

  A signature records the identities of the parameter and result types together with the names
  under which they are shown.  Two signatures agree when the identities do; the names play no
  part (`agrees_iff`).
-/
import Switchboard.Value.Ty

namespace Switchboard

variable {U : Universe}

/-- The parameter and result types of an operation, with the names under which they are shown. -/
structure Signature (U : Universe) where
  params : Ty U
  ret : Ty U
  paramsName : String
  retName : String
  deriving DecidableEq

namespace Signature

/-- The signature of an operation that takes `A` and gives `R`. -/
def of (A R : Ty U) : Signature U :=
  ⟨A, R, A.name, R.name⟩

/-- Whether two signatures have the same parameter and result types. -/
def agrees (s t : Signature U) : Bool :=
  s.params == t.params && s.ret == t.ret

/-- The text of a signature. -/
def text (s : Signature U) : String :=
  s!"fn{s.paramsName} -> {s.retName}"

theorem agrees_iff {s t : Signature U} : s.agrees t ↔ s.params = t.params ∧ s.ret = t.ret := by
  simp [agrees]

theorem agrees_of_iff {s : Signature U} {A R : Ty U} :
    s.agrees (of A R) ↔ s.params = A ∧ s.ret = R :=
  agrees_iff

end Signature

end Switchboard
