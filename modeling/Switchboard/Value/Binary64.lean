/-
  Double-precision numbers, held as the 64 bits of their interchange format and never computed
  with, except that a natural number is rounded to the nearest one.
-/
import Switchboard.Text.Bytes

namespace Switchboard

/-- A double-precision number, by its bits. -/
structure Binary64 where
  bits : UInt64
  deriving DecidableEq

namespace Binary64

/-- `n / 2 ^ shift`, rounded to the nearest integer; a tie goes to the even one. -/
def roundShift (n shift : Nat) : Nat :=
  let unit := 1 <<< shift
  let quotient := n / unit
  let rest := 2 * (n % unit)
  if unit < rest ∨ (rest = unit ∧ quotient % 2 = 1) then quotient + 1 else quotient

/-- The double nearest to `n`, for `n` below `2 ^ 1023`.  The significand has 53 bits, of which the
    leading one is not stored; a significand that rounds up to `2 ^ 53` carries into the exponent. -/
def ofNat (n : Nat) : Binary64 :=
  if n = 0 then ⟨0⟩
  else
    let exponent := n.log2
    let significand := if exponent ≤ 52 then n <<< (52 - exponent) else roundShift n (exponent - 52)
    ⟨((exponent + 1022) <<< 52 + significand).toUInt64⟩

/-- The bits as sixteen hexadecimal digits. -/
def text (x : Binary64) : String :=
  String.ofList (hexDigits 16 x.bits.toNat)

/-- The number whose bits are given by hexadecimal digits. -/
def ofText? (s : String) : Option Binary64 :=
  (hexNat? s).map fun n => ⟨n.toUInt64⟩

end Binary64

end Switchboard
