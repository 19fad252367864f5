/-
  The two standard contracts: a source of text and a sink of lines.

  `Readable` declares `read`, which gives a text; `Writable` declares `write`, which takes a message
  and gives the result of writing it to a stream.  A type of contract keys that includes the two
  says so by an instance of `HasStandard`.
-/
import Switchboard.Table

namespace Switchboard

variable {U : Universe}

/-- The keys of the standard contracts. -/
inductive Standard where
  | readable
  | writable
  deriving DecidableEq

namespace Standard

/-- The name of a standard contract. -/
def name : Standard → String
  | readable => "Readable"
  | writable => "Writable"

/-- Reading takes nothing and gives a text. -/
def read : Declaration U := { name := "read", ret := .text }

/-- Writing takes a message and gives what the stream answered. -/
def write : Declaration U := { name := "write", params := [.text], ret := .written }

/-- The operations that a standard contract declares. -/
def declarations : Standard → List (Declaration U)
  | readable => [read]
  | writable => [write]

/-- A standard contract. -/
def contract (s : Standard) : Contract U :=
  .ofDeclarations s.name s.declarations

/-- The standard contract of a given name. -/
def ofName? (s : String) : Option Standard :=
  [readable, writable].find? (·.name == s)

end Standard

/-- Contract keys among which the standard contracts are found. -/
class HasStandard (κ : Type) where
  key : Standard → κ

instance : HasStandard Standard := ⟨id⟩

namespace Routine

variable {κ D : Type} [HasStandard κ]

/-- Read through the table. -/
def read : Routine U κ D (Except Failure String) :=
  invoke (HasStandard.key .readable) "read" (.tuple []) .text ()

/-- Write a message through the table. -/
def write (message : String) : Routine U κ D (Except Failure (Except StreamError Unit)) :=
  invoke (HasStandard.key .writable) "write" (.tuple [.text]) .written (message, ())

end Routine

end Switchboard
