/-
  Which patterns can be used.

  A pattern is compiled to an automaton over the bytes of a text.  Tables of characters are not at
  hand, so a pattern of code points may neither ask for digits, blanks and word characters nor ignore
  the case of letters; and since a text is never ill-formed, a pattern of bytes may match ASCII bytes
  only (`Atom.isSupported`).  Word edges between code points can be read but not compiled.

  * `CharSet.isSupported` tells which sets can be used: of bytes, of code points, and of code points
    where case is ignored;
  * `check` tells whether a pattern can be used, and if not, why.
-/
import Switchboard.Pattern.Reader

namespace Switchboard.Pattern

/-- Why a pattern cannot be used. -/
inductive Fault where
  /-- It is no pattern, nested too deeply, or asks for what is not at hand. -/
  | unreadable
  /-- It asks for word edges between code points. -/
  | wordEdge
  deriving DecidableEq

/-- The text of a reason. -/
def Fault.message : Fault → String
  | unreadable => "error building NFA"
  | wordEdge =>
    "unsupported regex feature for DFAs: cannot build DFAs for regexes with Unicode word boundaries; " ++
      "switch to ASCII word boundaries, or heuristically enable Unicode word boundaries or use a " ++
      "different regex engine"

/-! ## Sets -/

/-- Whether a range has all code points. -/
def isFullRange (low high : Letter) : Bool :=
  low.char.toNat = 0 && high.char.toNat = 0x10ffff

/-- An operator on sets of which each has no characters or all of them (`true`). -/
def SetOperator.onFull : SetOperator → Bool → Bool → Bool
  | intersection, l, r => l && r
  | difference, l, r => l && !r
  | symmetricDifference, l, r => l != r

mutual

/-- Add a set to no code points, or to all of them (`full`), where case is ignored.  Without tables
    only these two sets are known to have every letter in both its cases, so the sum is known if the
    set is again one of them, or if it is written as the range of all code points and adds nothing. -/
def CharSet.addTo? (full : Bool) : CharSet → Option Bool
  | .none => some full
  | .letter _ | .named _ | .shorthand _ => Option.none
  | .range low high => if full && isFullRange low high then some true else Option.none
  | .bracketed negated s => (s.addTo? false).map fun all => full || (all != negated)
  | .union ss => addAllTo? full ss
  | .combined op left right => do
    let l ← left.addTo? false
    let r ← right.addTo? false
    return full || op.onFull l r

/-- Add sets one after the other. -/
def addAllTo? (full : Bool) : List CharSet → Option Bool
  | [] => some full
  | s :: ss => do addAllTo? (← s.addTo? full) ss

end

mutual

/-- Whether a set of code points can be used where case matters. -/
def CharSet.isPlainSet : CharSet → Bool
  | .none | .letter _ | .range _ _ | .named _ => true
  | .shorthand _ => false
  | .bracketed _ s => s.isPlainSet
  | .union ss => arePlainSets ss
  | .combined _ left right => left.isPlainSet && right.isPlainSet

/-- Whether sets of code points can be used where case matters. -/
def arePlainSets : List CharSet → Bool
  | [] => true
  | s :: ss => s.isPlainSet && arePlainSets ss

end

mutual

/-- Whether a set of bytes can be used.  The complement of a set of ASCII bytes has other bytes. -/
def CharSet.isByteSet : CharSet → Bool
  | .none => true
  | .letter l => l.char.toNat < 0x80
  | .range low high => low.char.toNat < 0x80 && high.char.toNat < 0x80
  | .named negated | .shorthand negated => !negated
  | .bracketed negated s => !negated && s.isByteSet
  | .union ss => areByteSets ss
  | .combined _ left right => left.isByteSet && right.isByteSet

/-- Whether sets of bytes can be used. -/
def areByteSets : List CharSet → Bool
  | [] => true
  | s :: ss => s.isByteSet && areByteSets ss

end

/-- Whether a set can be used. -/
def CharSet.isSupported (m : Mode) (s : CharSet) : Bool :=
  if !m.unicode then s.isByteSet
  else if m.ignoreCase then (s.addTo? false).isSome
  else s.isPlainSet

/-! ## Patterns -/

/-- Whether an atom can be used.  Outside of sets a character beyond ASCII stands for the bytes of its
    encoding, unless it was written as a byte. -/
def Atom.isSupported (m : Mode) : Atom → Bool
  | letter l => if m.unicode then !m.ignoreCase else !l.isByte || l.char.toNat < 0x80
  | any => m.unicode
  | edge | wordEdge => true
  | set s => s.isSupported m

/-- Whether an atom is a word edge between code points. -/
def Atom.isUnicodeEdge (m : Mode) : Atom → Bool
  | wordEdge => m.unicode
  | _ => false

/-- How deeply a pattern may be nested. -/
def maxHeight : Nat := 250

/-- Whether a pattern can be used. -/
def check (s : List Char) : Except Fault Unit :=
  match Tree.parse? s with
  | none => .error .unreadable
  | some t =>
    if maxHeight < t.height || t.leaves.any (fun l => !l.2.isSupported l.1) then .error .unreadable
    else if t.leaves.any (fun l => l.2.isUnicodeEdge l.1) then .error .wordEdge
    else .ok ()

end Switchboard.Pattern
