/-
  Texts in quotation marks.

  A quoted text stands between two `"`.  The mark itself and the backslash are preceded by a
  backslash, and tabs, line ends and the null character have a letter.  Every other character that
  a reader would not see, or would see only as part of its neighbour, is written by its code point
  (`isPlain`).
-/
import Switchboard.Text.Bytes
import Switchboard.Text.GraphemeExtend
import Switchboard.Text.Unprintable

namespace Switchboard

/-- Letters that fill a place without being seen. -/
def isFiller (c : Char) : Bool :=
  [0x115f, 0x1160, 0x3164, 0xffa0].contains c.toNat

/-- The halfwidth sound marks, which attach to a syllable but take a place of their own. -/
def isHalfwidthMark (c : Char) : Bool :=
  c.toNat = 0xff9e || c.toNat = 0xff9f

/-- Whether a character is seen, and as itself: it has a visible form, fills no place unseen, and
    does not attach to the character before it. -/
def isPlain (c : Char) : Bool :=
  if c.toNat < 0x80 then 0x20 ≤ c.toNat && c.toNat < 0x7f
  else !isUnprintable c && !isFiller c && (isHalfwidthMark c || !isGraphemeExtend c)

/-- A character as it stands inside a quoted text. -/
def escape (c : Char) : List Char :=
  if c = '"' then ['\\', '"']
  else if c = '\\' then ['\\', '\\']
  else if c = '\t' then ['\\', 't']
  else if c = '\r' then ['\\', 'r']
  else if c = '\n' then ['\\', 'n']
  else if c.toNat = 0 then ['\\', '0']
  else if isPlain c then [c]
  else "\\u\x7b".toList ++ (hexNat c.toNat).toList ++ "\x7d".toList

/-- A text in quotation marks. -/
def quoted (s : String) : String :=
  "\"" ++ String.ofList (s.toList.flatMap escape) ++ "\""

/-- A list of quoted texts in square brackets. -/
def quotedList (names : List String) : String :=
  "[" ++ String.intercalate ", " (names.map quoted) ++ "]"

end Switchboard
