/-
  The symbols of a pattern, read from the front of a text.

  Every reader here takes a text and returns what it found with the rest of the text, or nothing if
  the text does not begin as it should.

  * `skipBlank` passes over blanks and comments, `peekBlank` looks beyond them;
  * `readEscape` reads what follows a backslash;
  * `readName`, `readFlags` and `readNamedSet` read what opens groups and sets.
-/
import Switchboard.Pattern.Tree
import Switchboard.Text.Alphanumeric
import Switchboard.Text.Blank
import Switchboard.Text.Bytes

namespace Switchboard.Pattern

/-! ## Blanks and comments -/

/-- A text after the blanks and comments at its beginning.  A comment begins with a hash and ends
    with its line. -/
def dropSpace : (inComment : Bool) → List Char → List Char
  | _, [] => []
  | true, c :: rest => dropSpace (c ≠ '\n') rest
  | false, c :: rest =>
    if isBlank c then dropSpace false rest
    else if c = '#' then dropSpace true rest
    else c :: rest

/-- A text after the blanks and comments at its beginning, if these are to be passed over. -/
def skipBlank (m : Mode) (s : List Char) : List Char :=
  if m.spaced then dropSpace false s else s

/-- The character to come, beyond blanks and the hash of one comment if these are to be passed over;
    where nothing else comes, the first character. -/
def peekBlank (m : Mode) (s : List Char) : Option Char :=
  if m.spaced then
    let text := match s.dropWhile isBlank with
      | '#' :: rest => rest.dropWhile isBlank
      | rest => rest
    text.head? <|> s.head?
  else s.head?

/-! ## Escapes -/

/-- The value of a hexadecimal digit in either case. -/
def hexDigit? (c : Char) : Option Nat :=
  hexValue? c.toLower

/-- A code point of `count` hexadecimal digits, which follow the digits of `value`. -/
def readHex (m : Mode) : (count value : Nat) → List Char → Option (Char × List Char)
  | 0, n, s => if n.isValidChar then some (Char.ofNat n, s) else none
  | count + 1, n, s =>
    match skipBlank m s with
    | [] => none
    | c :: rest => (hexDigit? c).bind fun d => readHex m count (16 * n + d) rest

/-- What follows a backslash.  Punctuation stands for itself.  There are no references to groups and
    no sets named by properties. -/
def readEscape (m : Mode) : List Char → Option (Atom × List Char)
  | [] => none
  | c :: rest =>
    let letter (c : Char) : Option (Atom × List Char) := some (.letter ⟨c, false⟩, rest)
    match c with
    | 'x' => (readHex m 2 0 rest).map fun r => (.letter ⟨r.1, true⟩, r.2)
    | 'u' => (readHex m 4 0 rest).map fun r => (.letter ⟨r.1, false⟩, r.2)
    | 'U' => (readHex m 8 0 rest).map fun r => (.letter ⟨r.1, false⟩, r.2)
    | 'a' => letter '\x07'
    | 'f' => letter '\x0c'
    | 't' => letter '\t'
    | 'n' => letter '\n'
    | 'r' => letter '\r'
    | 'v' => letter '\x0b'
    | 'd' | 's' | 'w' => some (.set (.shorthand false), rest)
    | 'D' | 'S' | 'W' => some (.set (.shorthand true), rest)
    | 'A' | 'z' => some (.edge, rest)
    | 'b' | 'B' | '<' | '>' => some (.wordEdge, rest)
    | _ => if 0x80 ≤ c.toNat || c.isAlphanum then none else letter c

/-! ## Groups -/

/-- Whether a character may stand in the name of a group, and whether first. -/
def namesGroup (first : Bool) (c : Char) : Bool :=
  c = '_' || if first then isAlphabetic c else isAlphanumeric c || ['.', '[', ']'].contains c

/-- The name of a group, which a closing angle bracket ends. -/
def readName (s : List Char) : Option (List Char × List Char) :=
  let name := s.takeWhile (· ≠ '>')
  match name, s.drop name.length with
  | c :: cs, '>' :: rest =>
    if namesGroup true c && cs.all (namesGroup false) then some (c :: cs, rest) else none
  | _, _ => none

/-- The flags of patterns, and the dash that turns off those after it. -/
def flagLetters : List Char := ['i', 'm', 's', 'U', 'u', 'R', 'x', '-']

/-- Flags, with the colon or parenthesis that ends them.  None occurs twice, and a dash is followed by
    a flag. -/
def readFlags (s : List Char) : Option (List Char × Char × List Char) :=
  let flags := s.takeWhile fun c => c ≠ ':' ∧ c ≠ ')'
  match s.drop flags.length with
  | [] => none
  | mark :: rest =>
    if flags.all flagLetters.contains && flags.eraseDups = flags && flags.getLast? ≠ some '-' then
      some (flags, mark, rest)
    else none

/-! ## Sets -/

/-- The names of sets. -/
def setNames : List String :=
  ["alnum", "alpha", "ascii", "blank", "cntrl", "digit", "graph", "lower", "print", "punct", "space",
    "upper", "word", "xdigit"]

/-- A set with a name, after its opening bracket: whether a caret negates it. -/
def readNamedSet : List Char → Option (Bool × List Char)
  | ':' :: s =>
    let negated := s.head? = some '^'
    let s := if negated then s.tail else s
    let name := s.takeWhile (· ≠ ':')
    match s.drop name.length with
    | ':' :: ']' :: rest =>
      if setNames.contains (String.ofList name) then some (negated, rest) else none
    | _ => none
  | _ => none

/-- A character inside brackets, which an escape may stand for. -/
def readMember (m : Mode) (c : Char) (rest : List Char) : Option (Atom × List Char) :=
  if c = '\\' then readEscape m rest else some (.letter ⟨c, false⟩, rest)

/-- What an atom contributes to a set. -/
def Atom.member? : Atom → Option CharSet
  | letter l => some (.letter l)
  | set s => some s
  | _ => none

/-- A range, whose ends are in order. -/
def range? : Atom → Atom → Option CharSet
  | .letter low, .letter high => if low.char ≤ high.char then some (.range low high) else none
  | _, _ => none

/-- A member of a set that begins with `c`: a range, or what stands for itself.  A dash before a
    closing bracket or another dash makes no range. -/
def readItem (m : Mode) (c : Char) (rest : List Char) : Option (CharSet × List Char) := do
  let (low, rest) ← readMember m c rest
  match skipBlank m rest with
  | '-' :: after =>
    if [some ']', some '-'].contains (peekBlank m after) then return (← low.member?, '-' :: after)
    else match skipBlank m after with
      | [] => none
      | d :: rest =>
        let (high, rest) ← readMember m d rest
        return (← range? low high, rest)
  | rest => return (← low.member?, rest)

end Switchboard.Pattern
