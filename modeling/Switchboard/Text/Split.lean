/-
  Texts cut into pieces: at a character, at line ends, and at a place counted in bytes.
-/
import Switchboard.Text.Bytes

namespace Switchboard

/-- The pieces of a text between the occurrences of a separator.  There is always one more piece
    than there are separators. -/
def pieces (sep : Char) : List Char → List (List Char)
  | [] => [[]]
  | c :: rest =>
    if c = sep then [] :: pieces sep rest
    else match pieces sep rest with
      | [] => [[c]]
      | p :: ps => (c :: p) :: ps

/-- A text without the carriage return at its end, if there is one. -/
def dropReturn (s : List Char) : List Char :=
  if s.getLast? = some '\r' then s.dropLast else s

/-- The lines of a text.  A line ends with a newline, which a carriage return may precede; what
    follows the last newline is a line unless it is empty. -/
def lines (s : String) : List String :=
  let all := pieces '\n' s.toList
  let ended := all.dropLast.map dropReturn
  let last := all.getLast?.getD []
  (ended ++ if last.isEmpty then [] else [last]).map String.ofList

/-! ## Places counted in bytes -/

/-- The length of a list of characters, counted in the bytes of their encoding. -/
def byteCount : List Char → Nat
  | [] => 0
  | c :: rest => c.utf8Size + byteCount rest

/-- The characters that begin before the place `n`. -/
def takeBytes : Nat → List Char → List Char
  | _, [] => []
  | 0, _ => []
  | n + 1, c :: rest => c :: takeBytes (n + 1 - c.utf8Size) rest

/-- The characters that begin at the place `n` or after it. -/
def dropBytes : Nat → List Char → List Char
  | _, [] => []
  | 0, s => s
  | n + 1, c :: rest => dropBytes (n + 1 - c.utf8Size) rest

/-- The characters that begin between two places. -/
def sliceBytes (start stop : Nat) (s : List Char) : List Char :=
  takeBytes (stop - start) (dropBytes start s)

end Switchboard
