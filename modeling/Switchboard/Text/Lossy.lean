/-
  Decoding bytes that need not be well-formed UTF-8.

  The decoder reads one byte at a time.  Between two bytes it is either at the start of a
  character (`none`) or inside one (`some p`), where `p : Pending` records the bits read so far,
  how many bytes are still missing after the next one, and which values the next byte may have.
  A byte outside that range ends the character: what was read of it, a maximal ill-formed part,
  becomes one replacement character, and the byte is read afresh.

  * `feed` is one step, `decodeFrom` the decoding of a sequence, `decode` that of a whole text;
  * `decodeFrom_append`: decoding a concatenation resumes the second part where the first ended.
-/
import Switchboard.Text.Bytes

namespace Switchboard.Lossy

/-- The character that stands for an ill-formed part. -/
def replacement : Char := '\ufffd'

/-- The state inside a character: the bits read so far, the bytes missing after the next one, and
    the range of the next byte. -/
structure Pending where
  bits : Nat
  missing : Nat
  low : UInt8
  high : UInt8
  deriving DecidableEq

/-- A byte at the start of a character.  The ranges exclude overlong forms, surrogates and values
    past the last code point. -/
def start (b : UInt8) : List Char × Option Pending :=
  if b < 0x80 then ([Char.ofNat b.toNat], none)
  else if b < 0xc2 then ([replacement], none)
  else if b < 0xe0 then ([], some ⟨b.toNat - 0xc0, 0, 0x80, 0xbf⟩)
  else if b < 0xf0 then
    ([], some ⟨b.toNat - 0xe0, 1, if b = 0xe0 then 0xa0 else 0x80, if b = 0xed then 0x9f else 0xbf⟩)
  else if b < 0xf5 then
    ([], some ⟨b.toNat - 0xf0, 2, if b = 0xf0 then 0x90 else 0x80, if b = 0xf4 then 0x8f else 0xbf⟩)
  else ([replacement], none)

/-- One step of the decoder: the characters completed by a byte, and the next state. -/
def feed : Option Pending → UInt8 → List Char × Option Pending
  | none, b => start b
  | some p, b =>
    if p.low ≤ b ∧ b ≤ p.high then
      let bits := 64 * p.bits + (b.toNat - 0x80)
      match p.missing with
      | 0 => ([Char.ofNat bits], none)
      | missing + 1 => ([], some ⟨bits, missing, 0x80, 0xbf⟩)
    else
      let again := start b
      (replacement :: again.1, again.2)

/-- The characters completed by a sequence of bytes, and the state after them. -/
def decodeStep (p : Option Pending) : Bytes → List Char × Option Pending
  | [] => ([], p)
  | b :: rest =>
    let step := feed p b
    let after := decodeStep step.2 rest
    (step.1 ++ after.1, after.2)

/-- What is left of a state when the bytes end: one replacement inside a character. -/
def settle : Option Pending → List Char
  | none => []
  | some _ => [replacement]

/-- The decoding of a sequence of bytes from a given state to their end. -/
def decodeFrom (p : Option Pending) (bytes : Bytes) : List Char :=
  let read := decodeStep p bytes
  read.1 ++ settle read.2

/-- The text of a sequence of bytes, with one replacement character for each maximal ill-formed
    part. -/
def decode (bytes : Bytes) : String :=
  String.ofList (decodeFrom none bytes)

theorem decodeStep_append (p : Option Pending) (a b : Bytes) :
    decodeStep p (a ++ b) =
      ((decodeStep p a).1 ++ (decodeStep (decodeStep p a).2 b).1,
        (decodeStep (decodeStep p a).2 b).2) := by
  induction a generalizing p with
  | nil => simp [decodeStep]
  | cons x rest ih => simp [decodeStep, ih]

/-- **Decoding resumes where the first part ended.** -/
theorem decodeFrom_append (p : Option Pending) (a b : Bytes) :
    decodeFrom p (a ++ b) = (decodeStep p a).1 ++ decodeFrom (decodeStep p a).2 b := by
  simp [decodeFrom, decodeStep_append]

end Switchboard.Lossy
