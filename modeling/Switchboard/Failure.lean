/-
  Why an operation on a table was refused or did not succeed.
-/
import Switchboard.StreamError

namespace Switchboard

/-- The reasons for which a binding, a call or a greeting fails. -/
inductive Failure where
  /-- The contract declares no such operation. -/
  | violation (contract operation : String)
  /-- The operation is declared and nothing is bound to it. -/
  | unbound (contract operation : String)
  /-- The types of a binding or call differ from those expected. -/
  | mismatch (contract operation expected found : String)
  /-- The output stream failed. -/
  | stream (error : StreamError)
  deriving DecidableEq

namespace Failure

/-- The message of a failure. -/
def message : Failure → String
  | violation c o => s!"contract `{c}` declares no operation `{o}`"
  | unbound c o => s!"capability `{c}::{o}` is not bound"
  | mismatch c o expected found => s!"`{c}::{o}` expects `{expected}`, got `{found}`"
  | stream e => s!"i/o error: {e.message}"

/-- The detailed text of a failure, which names its parts. -/
def detail : Failure → String
  | violation c o =>
    s!"ContractViolation \x7b contract: {quoted c}, operation: {quoted o} \x7d"
  | unbound c o =>
    s!"UnboundCapability \x7b contract: {quoted c}, operation: {quoted o} \x7d"
  | mismatch c o expected found =>
    s!"SignatureMismatch \x7b contract: {quoted c}, operation: {quoted o}, " ++
      s!"expected: {quoted expected}, found: {quoted found} \x7d"
  | stream e => s!"Io({e.detail})"

/-- Whether the operation is not declared. -/
def isViolation : Failure → Bool
  | violation _ _ => true
  | _ => false

/-- Whether the operation is not bound. -/
def isUnbound : Failure → Bool
  | unbound _ _ => true
  | _ => false

/-- The stream error behind a failure, if any. -/
def source : Failure → Option StreamError
  | stream e => some e
  | _ => none

end Failure

end Switchboard
