/-
  The types of parameters and results.

  Types are values here (`Ty`), compared by identity: two types may share a name and still differ.
  Which types there are besides tuples, texts and the results of writing is left open: they are the
  codes of a universe (`Universe`), and nothing is asked of them but that they can be told apart.
  `Ty.Val t` is the type of the values of `t`.

  An operation takes its parameters as one value, a tuple where it is declared, and `()` is the
  tuple of no members.
-/
import Switchboard.StreamError

namespace Switchboard

/-- The types that a program brings along: a code for each, its values, and the name under which it
    is shown.  Different codes may have the same name. -/
structure Universe where
  Code : Type
  [decEq : DecidableEq Code]
  Val : Code → Type
  name : Code → String

attribute [instance] Universe.decEq

/-- The universe without types. -/
def Universe.empty : Universe where
  Code := Empty
  Val := nofun
  name := nofun

/-- The types of values that operations take and give. -/
inductive Ty (U : Universe) where
  | tuple (members : List (Ty U))
  /-- Text that is built while running. -/
  | text
  /-- What a write to a stream gives: nothing, or the stream's error. -/
  | written
  /-- A type of the universe. -/
  | base (code : U.Code)

namespace Ty

variable {U : Universe}

/-- The type of the empty tuple. -/
@[match_pattern]
abbrev unit : Ty U := tuple []

-- A type is nested in the list of a tuple's members, so each function on types comes with one on
-- lists of types.
mutual

def decEq : (s t : Ty U) → Decidable (s = t)
  | tuple ss, tuple ts =>
    match decEqList ss ts with
    | isTrue h => isTrue (congrArg tuple h)
    | isFalse h => isFalse fun he => h (tuple.inj he)
  | text, text => isTrue rfl
  | written, written => isTrue rfl
  | base c, base d =>
    if h : c = d then isTrue (congrArg base h) else isFalse fun he => h (base.inj he)
  | tuple _, text | tuple _, written | tuple _, base _
  | text, tuple _ | text, written | text, base _
  | written, tuple _ | written, text | written, base _
  | base _, tuple _ | base _, text | base _, written => isFalse nofun

def decEqList : (ss ts : List (Ty U)) → Decidable (ss = ts)
  | [], [] => isTrue rfl
  | s :: ss, t :: ts =>
    match decEq s t, decEqList ss ts with
    | isTrue h, isTrue hs => isTrue (by rw [h, hs])
    | isFalse h, _ => isFalse fun he => h (List.cons.inj he).1
    | _, isFalse hs => isFalse fun he => hs (List.cons.inj he).2
  | [], _ :: _ | _ :: _, [] => isFalse nofun

end

instance : DecidableEq (Ty U) := decEq

mutual

/-- The values of a type. -/
@[reducible]
def Val : Ty U → Type
  | tuple ts => Tuple ts
  | text => String
  | written => Except StreamError Unit
  | base c => U.Val c

/-- The values of a sequence of types, one of each. -/
@[reducible]
def Tuple : List (Ty U) → Type
  | [] => Unit
  | t :: ts => t.Val × Tuple ts

end

mutual

/-- The name under which a type is shown.  A tuple's members stand between parentheses, and a single
    member is followed by a comma. -/
def name : Ty U → String
  | tuple [t] => s!"({t.name},)"
  | tuple ts => "(" ++ String.intercalate ", " (names ts) ++ ")"
  | text => "alloc::string::String"
  | written => "core::result::Result<(), core::io::error::Error>"
  | base c => U.name c

def names : List (Ty U) → List String
  | [] => []
  | t :: ts => t.name :: names ts

end

end Ty

end Switchboard
