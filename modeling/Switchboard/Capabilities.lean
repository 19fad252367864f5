/-
  Sets of capabilities.

  A set is a byte with one bit per capability.  Two bits have a name; the others can be set as
  well and are kept, but they name nothing.

  * `Capabilities.names` and `Capabilities.parts` take a set apart, and `Capabilities.ofParts`
    puts it together again;
  * `Capabilities.detail` is the text of a set.
-/
import Switchboard.Text.Bytes

namespace Switchboard

/-- A set of capabilities, by its bits. -/
structure Capabilities where
  bits : UInt8
  deriving DecidableEq

namespace Capabilities

/-- The capability of being read. -/
def readable : Capabilities := ⟨1⟩

/-- The capability of being written to. -/
def writable : Capabilities := ⟨2⟩

/-- The named capabilities in order. -/
def flags : List (String × Capabilities) :=
  [("READABLE", readable), ("WRITABLE", writable)]

/-- The set without members. -/
def empty : Capabilities := ⟨0⟩

/-- All named capabilities. -/
def all : Capabilities := ⟨3⟩

/-! ## Combining sets -/

def union (a b : Capabilities) : Capabilities := ⟨a.bits ||| b.bits⟩

def intersection (a b : Capabilities) : Capabilities := ⟨a.bits &&& b.bits⟩

def difference (a b : Capabilities) : Capabilities := ⟨a.bits &&& ~~~b.bits⟩

def symmetricDifference (a b : Capabilities) : Capabilities := ⟨a.bits ^^^ b.bits⟩

/-- The set with `b` added or removed. -/
def set (a b : Capabilities) (present : Bool) : Capabilities :=
  if present then a.union b else a.difference b

/-- The named capabilities in a set. -/
def truncate (a : Capabilities) : Capabilities := a.intersection all

/-- The named capabilities that are not in a set. -/
def complement (a : Capabilities) : Capabilities := truncate ⟨~~~a.bits⟩

/-! ## Asking -/

/-- Whether every member of `b` is in `a`. -/
def contains (a b : Capabilities) : Bool := a.intersection b == b

/-- Whether some member of `b` is in `a`. -/
def intersects (a b : Capabilities) : Bool := a.intersection b != empty

def isEmpty (a : Capabilities) : Bool := a == empty

/-- Whether every named capability is in the set. -/
def isAll (a : Capabilities) : Bool := a.contains all

/-- The set of given bits, unless one of them has no name. -/
def ofBits? (bits : UInt8) : Option Capabilities :=
  if (⟨bits⟩ : Capabilities).truncate.bits = bits then some ⟨bits⟩ else none

/-- The capability of a given name. -/
def ofName? (s : String) : Option Capabilities :=
  flags.lookup s

/-! ## Taking a set apart -/

/-- The named capabilities in a set, in order. -/
def members (a : Capabilities) : List (String × Capabilities) :=
  flags.filter fun f => a.contains f.2

/-- What remains of a set without its named members. -/
def rest (a : Capabilities) : Capabilities := a.difference all

/-- The names of the members that have one. -/
def names (a : Capabilities) : List String := a.members.map (·.1)

/-- The named members one by one, then the rest if there is any. -/
def parts (a : Capabilities) : List Capabilities :=
  a.members.map (·.2) ++ if a.rest.isEmpty then [] else [a.rest]

/-- The set made of given parts. -/
def ofParts (ps : List Capabilities) : Capabilities := ps.foldl union empty

/-- The text of a set: its names, then the bits of the rest. -/
def detail (a : Capabilities) : String :=
  let shown := a.names ++ if a.rest.isEmpty then [] else ["0x" ++ hexNat a.rest.bits.toNat]
  "Capabilities(" ++ (if shown.isEmpty then "0x0" else String.intercalate " | " shown) ++ ")"

end Capabilities

end Switchboard
