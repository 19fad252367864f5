/-
  Regular expressions as trees.

  A filter may ask that the value of a field match a pattern.  No pattern is ever matched, since such
  a directive applies to no event; but one that cannot be used is reported, so patterns are read and
  checked.

  A leaf of the tree is an atom with the mode in which it is to be understood.  Modes are changed by
  flags: for the rest of the group in which these stand, or for the group that they open.  The
  reader resolves them, so a tree keeps only the place of the flags (`Tree.flags`).

  * `Mode.change` applies flags to a mode;
  * `Tree.height` and `CharSet.height` count how deeply a tree is nested;
  * `Tree.leaves` lists the leaves.
-/
namespace Switchboard.Pattern

/-! ## Modes -/

/-- How a pattern is to be understood. -/
structure Mode where
  /-- Letters stand for both their cases. -/
  ignoreCase : Bool := false
  /-- A pattern speaks of code points; otherwise it speaks of bytes. -/
  unicode : Bool := true
  /-- Blanks and comments between symbols are passed over. -/
  spaced : Bool := false
  deriving DecidableEq

/-- The state of a switch after flags: on if its letter is among them, off if its letter follows a
    dash, as it was if its letter does not occur. -/
def switched (flags : List Char) (letter : Char) (before : Bool) : Bool :=
  let on := flags.takeWhile (· ≠ '-')
  if on.contains letter then true
  else if flags.contains letter then false
  else before

/-- The mode after flags. -/
def Mode.change (m : Mode) (flags : List Char) : Mode where
  ignoreCase := switched flags 'i' m.ignoreCase
  unicode := switched flags 'u' m.unicode
  spaced := switched flags 'x' m.spaced

/-! ## Trees -/

/-- A character that stands for itself. -/
structure Letter where
  char : Char
  /-- It was written as two hexadecimal digits, by which a pattern of bytes means a byte. -/
  isByte : Bool := false
  deriving DecidableEq

/-- What can be made of two sets. -/
inductive SetOperator where
  | intersection
  | difference
  | symmetricDifference
  deriving DecidableEq

/-- Sets of characters, as they are written between brackets. -/
inductive CharSet where
  | none
  | letter (l : Letter)
  | range (low high : Letter)
  /-- A set with a name between colons, such as that of the letters. -/
  | named (negated : Bool)
  /-- The digits, the blanks or the word characters. -/
  | shorthand (negated : Bool)
  | bracketed (negated : Bool) (s : CharSet)
  | union (ss : List CharSet)
  /-- Two sets with an operator between them. -/
  | combined (op : SetOperator) (left right : CharSet)

/-- The symbols of a pattern that match by themselves. -/
inductive Atom where
  | letter (l : Letter)
  /-- Any character. -/
  | any
  /-- The beginning or the end of a line or of the text. -/
  | edge
  /-- The beginning or the end of a word, or a place that is neither. -/
  | wordEdge
  | set (s : CharSet)

/-- Regular expressions. -/
inductive Tree where
  | empty
  | flags
  | atom (mode : Mode) (a : Atom)
  | repeated (t : Tree)
  | group (t : Tree)
  | sequence (ts : List Tree)
  | choice (ts : List Tree)

/-- The union of sets, of which one alone needs no union. -/
def CharSet.ofList : List CharSet → CharSet
  | [] => none
  | [s] => s
  | ss => union ss

/-- The sequence of trees, of which one alone needs no sequence. -/
def Tree.ofSequence : List Tree → Tree
  | [] => empty
  | [t] => t
  | ts => sequence ts

/-- The choice between trees, of which one alone needs no choice. -/
def Tree.ofChoice : List Tree → Tree
  | [] => empty
  | [t] => t
  | ts => choice ts

/-! ## Heights -/

mutual

/-- How many brackets, unions and operators are nested in a set. -/
def CharSet.height : CharSet → Nat
  | .none | .letter _ | .range _ _ | .named _ | .shorthand _ => 0
  | .bracketed _ s => s.height + 1
  | .union ss => heightOfSets ss + 1
  | .combined _ l r => max l.height r.height + 1

/-- The greatest height of sets. -/
def heightOfSets : List CharSet → Nat
  | [] => 0
  | s :: ss => max s.height (heightOfSets ss)

end

/-- The height of an atom is that of its set. -/
def Atom.height : Atom → Nat
  | .set s => s.height
  | _ => 0

mutual

/-- How many repetitions, groups, sequences and choices are nested in a tree. -/
def Tree.height : Tree → Nat
  | .empty | .flags => 0
  | .atom _ a => a.height
  | .repeated t => t.height + 1
  | .group t => t.height + 1
  | .sequence ts => heightOfTrees ts + 1
  | .choice ts => heightOfTrees ts + 1

/-- The greatest height of trees. -/
def heightOfTrees : List Tree → Nat
  | [] => 0
  | t :: ts => max t.height (heightOfTrees ts)

end

/-! ## Leaves -/

mutual

/-- The atoms of a tree from left to right, each with its mode. -/
def Tree.leaves : Tree → List (Mode × Atom)
  | .empty | .flags => []
  | .atom m a => [(m, a)]
  | .repeated t => t.leaves
  | .group t => t.leaves
  | .sequence ts => leavesOfTrees ts
  | .choice ts => leavesOfTrees ts

/-- The atoms of trees from left to right. -/
def leavesOfTrees : List Tree → List (Mode × Atom)
  | [] => []
  | t :: ts => t.leaves ++ leavesOfTrees ts

end

end Switchboard.Pattern
