/-
  Reading patterns.

  A pattern is read from left to right, one symbol at a time.  The reader keeps the groups that are
  still open, the sets that are still open, and what was read at the innermost place (`Reader`).
  A step uses up the symbol at hand and says what is left (`Reader.step`).

  * `Tree.parse?`: the tree of a pattern.
-/
import Switchboard.Pattern.Symbol

namespace Switchboard.Pattern

/-- What was read of one group: the alternatives before the current one, and the parts of the current
    one, both last first. -/
structure Level where
  before : List Tree := []
  parts : List Tree := []

/-- How much was read of a set. -/
inductive Stage where
  /-- Its opening bracket. -/
  | opened
  /-- The caret after the opening bracket. -/
  | negated
  /-- Dashes, which stand for themselves at the beginning. -/
  | dashes
  /-- Anything else. -/
  | body
  deriving DecidableEq

/-- A set that is still open: the last operator with the set on its left, and the members read since,
    last first. -/
structure OpenSet where
  stage : Stage := .opened
  negated : Bool := false
  left : Option (SetOperator × CharSet) := none
  members : List CharSet := []

/-- The state of reading. -/
structure Reader where
  mode : Mode := {}
  level : Level := {}
  /-- The open groups, innermost first: what was read around each, and the mode to return to. -/
  groups : List (Level × Mode) := []
  /-- The open sets, innermost first. -/
  sets : List OpenSet := []
  /-- The names of groups. -/
  names : List (List Char) := []

/-! ## Levels -/

/-- Add a part. -/
def Level.add (l : Level) (t : Tree) : Level :=
  { l with parts := t :: l.parts }

/-- Begin another alternative. -/
def Level.alternate (l : Level) : Level where
  before := .ofSequence l.parts.reverse :: l.before

/-- The tree of what was read. -/
def Level.tree (l : Level) : Tree :=
  .ofChoice l.alternate.before.reverse

/-- Repeat the last part, which may not be missing and may not be flags. -/
def Level.repeatLast? (l : Level) : Option Level :=
  match l.parts with
  | [] | .flags :: _ => none
  | t :: ts => some { l with parts := .repeated t :: ts }

/-! ## Open sets -/

/-- Add a member. -/
def OpenSet.add (s : OpenSet) (stage : Stage) (x : CharSet) : OpenSet :=
  { s with stage, members := x :: s.members }

/-- The set of what was read, without the brackets. -/
def OpenSet.content (s : OpenSet) : CharSet :=
  let right := .ofList s.members.reverse
  match s.left with
  | none => right
  | some (op, left) => .combined op left right

/-- Go on after an operator. -/
def OpenSet.operate (s : OpenSet) (op : SetOperator) : OpenSet :=
  { s with stage := .body, left := some (op, s.content), members := [] }

namespace Reader

/-! ## Steps -/

/-- Add a part to the innermost group. -/
def add (r : Reader) (t : Tree) : Reader :=
  { r with level := r.level.add t }

/-- Open a group, in which a mode holds. -/
def openGroup (r : Reader) (mode : Mode) : Reader :=
  { r with level := {}, groups := (r.level, r.mode) :: r.groups, mode }

/-- Close the innermost group. -/
def closeGroup? (r : Reader) : Option Reader :=
  match r.groups with
  | [] => none
  | (level, mode) :: groups => some { r with level := level.add (.group r.level.tree), groups, mode }

/-- What follows an opening parenthesis: a name, flags, or neither.  Flags without a colon change the
    mode for the rest of the group in which they stand.  Nothing looks ahead or behind. -/
def readGroup (r : Reader) (s : List Char) : Option (Reader × List Char) :=
  let named (s : List Char) : Option (Reader × List Char) := do
    let (name, rest) ← readName s
    if r.names.contains name then none
    else return ({ r with names := name :: r.names }.openGroup r.mode, rest)
  match skipBlank r.mode s with
  | '?' :: 'P' :: '<' :: s => named s
  | '?' :: '<' :: s => named s
  | '?' :: s => do
    let (flags, mark, rest) ← readFlags s
    let mode := r.mode.change flags
    if mark = ':' then return (r.openGroup mode, rest)
    else if flags.isEmpty then none
    else return ({ r with mode }.add .flags, rest)
  | rest => some (r.openGroup r.mode, rest)

/-- Close the innermost set and add it to the one around it, or else to the group. -/
def closeSet (r : Reader) (s : OpenSet) (outer : List OpenSet) : Reader :=
  let closed := CharSet.bracketed s.negated s.content
  match outer with
  | [] => { r with sets := [] }.add (.atom r.mode (.set closed))
  | o :: os => { r with sets := o.add .body closed :: os }

/-- A symbol inside the set `s`.  At the beginning a caret negates, dashes stand for themselves, and
    so does a closing bracket that nothing precedes. -/
def stepInSet (r : Reader) (s : OpenSet) (outer : List OpenSet) (c : Char) (rest : List Char) :
    Option (Reader × List Char) :=
  let go (s : OpenSet) (rest : List Char) : Option (Reader × List Char) :=
    some ({ r with sets := s :: outer }, rest)
  match s.stage, c, rest with
  | .opened, '^', _ => go { s with stage := .negated, negated := true } rest
  | .opened, ']', _ | .negated, ']', _ => go (s.add .body (.letter ⟨c, false⟩)) rest
  | .opened, '-', _ | .negated, '-', _ | .dashes, '-', _ => go (s.add .dashes (.letter ⟨c, false⟩)) rest
  | _, ']', _ => some (r.closeSet s outer, rest)
  | _, '&', '&' :: rest => go (s.operate .intersection) rest
  | _, '-', '-' :: rest => go (s.operate .difference) rest
  | _, '~', '~' :: rest => go (s.operate .symmetricDifference) rest
  | _, '[', _ =>
    match readNamedSet rest with
    | some (negated, rest) => go (s.add .body (.named negated)) rest
    | none => some ({ r with sets := {} :: { s with stage := .body } :: outer }, rest)
  | _, _, _ => do
    let (x, rest) ← readItem r.mode c rest
    go (s.add .body x) rest

/-- A symbol outside of sets.  There are no counted repetitions. -/
def stepOutside (r : Reader) (c : Char) (rest : List Char) : Option (Reader × List Char) :=
  let atom (a : Atom) (rest : List Char) : Option (Reader × List Char) :=
    some (r.add (.atom r.mode a), rest)
  match c with
  | '(' => r.readGroup rest
  | ')' => r.closeGroup?.map (·, rest)
  | '|' => some ({ r with level := r.level.alternate }, rest)
  | '[' => some ({ r with sets := [{}] }, rest)
  | '*' | '+' | '?' =>
    let rest := if rest.head? = some '?' then rest.tail else rest
    r.level.repeatLast?.map fun level => ({ r with level }, rest)
  | '\x7b' => none
  | '\\' => (readEscape r.mode rest).bind fun (a, rest) => atom a rest
  | '.' => atom .any rest
  | '^' | '$' => atom .edge rest
  | _ => atom (.letter ⟨c, false⟩) rest

/-- Use up the symbol that begins with `c`, and say what is left. -/
def step (r : Reader) (c : Char) (rest : List Char) : Option (Reader × List Char) :=
  if r.mode.spaced && isBlank c then some (r, rest)
  else if r.mode.spaced && c = '#' then some (r, dropSpace true rest)
  else match r.sets with
    | [] => r.stepOutside c rest
    | s :: outer => r.stepInSet s outer c rest

/-- Read on, after the `used` characters that belong to the last symbol. -/
def run (r : Reader) : (used : Nat) → List Char → Option Reader
  | _, [] => some r
  | used + 1, _ :: rest => r.run used rest
  | 0, c :: rest => do
    let (r, left) ← r.step c rest
    r.run (rest.length - left.length) rest

/-- The tree of what was read, once all groups and sets are closed. -/
def tree? (r : Reader) : Option Tree :=
  if r.groups.isEmpty && r.sets.isEmpty then some r.level.tree else none

end Reader

/-- The tree of a pattern. -/
def Tree.parse? (s : List Char) : Option Tree := do
  (← ({} : Reader).run 0 s).tree?

end Switchboard.Pattern
