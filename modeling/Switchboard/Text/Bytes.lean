/-
  Bytes and texts.

  A text is delivered as the bytes of its UTF-8 encoding (`utf8`), and its length is counted in
  those bytes (`byteLength`).  Bytes are shown as lowercase hexadecimal (`hex`), two digits each.

  * `utf8_append`: the encoding of a concatenation is the concatenation of the encodings.
-/
namespace Switchboard

/-- A finite sequence of bytes. -/
abbrev Bytes := List UInt8

/-- The UTF-8 encoding of a text. -/
def utf8 (s : String) : Bytes :=
  s.toList.flatMap String.utf8EncodeChar

/-- The length of a text, counted in the bytes of its encoding. -/
def byteLength (s : String) : Nat :=
  (utf8 s).length

@[simp]
theorem utf8_empty : utf8 "" = [] := rfl

theorem utf8_append (s t : String) : utf8 (s ++ t) = utf8 s ++ utf8 t := by
  simp [utf8]

/-- The encoding of the newline is the single byte `0x0a`. -/
@[simp]
theorem utf8_newline : utf8 "\n" = [0x0a] := by decide

/-- The eight bytes of a 64-bit word, most significant first. -/
def bigEndian (n : UInt64) : Bytes :=
  [7, 6, 5, 4, 3, 2, 1, 0].map fun (i : UInt64) => (n >>> (8 * i)).toUInt8

/-! ## Hexadecimal -/

/-- The lowercase hexadecimal digit of a value below sixteen. -/
def hexDigit (n : Nat) : Char :=
  if n < 10 then Char.ofNat ('0'.toNat + n) else Char.ofNat ('a'.toNat + (n - 10))

/-- The value of a lowercase hexadecimal digit. -/
def hexValue? (c : Char) : Option Nat :=
  if '0' ≤ c ∧ c ≤ '9' then some (c.toNat - '0'.toNat)
  else if 'a' ≤ c ∧ c ≤ 'f' then some (c.toNat - 'a'.toNat + 10)
  else none

/-- The last `width` hexadecimal digits of `n`, the most significant first. -/
def hexDigits : (width n : Nat) → List Char
  | 0, _ => []
  | width + 1, n => hexDigits width (n / 16) ++ [hexDigit (n % 16)]

/-- Bytes as lowercase hexadecimal, two digits a byte. -/
def hex (bytes : Bytes) : String :=
  String.ofList (bytes.flatMap fun b => hexDigits 2 b.toNat)

/-- A number in lowercase hexadecimal, without leading zeros. -/
def hexNat (n : Nat) : String :=
  String.ofList (hexDigits (n.log2 / 4 + 1) n)

/-- The value of a string of hexadecimal digits. -/
def hexNat? (s : String) : Option Nat :=
  s.toList.foldlM (fun n c => (hexValue? c).map (16 * n + ·)) 0

/-- The bytes that pairs of hexadecimal digits stand for; a lone digit is refused. -/
def unhexChars? : List Char → Option Bytes
  | [] => some []
  | [_] => none
  | a :: b :: rest => do
    let high ← hexValue? a
    let low ← hexValue? b
    let bytes ← unhexChars? rest
    return (16 * high + low).toUInt8 :: bytes

/-- The bytes that a hexadecimal text stands for. -/
def unhex? (s : String) : Option Bytes :=
  unhexChars? s.toList

end Switchboard
