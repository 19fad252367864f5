/-
  The values that a directive can ask of a field: numbers and patterns.

  Only the form of a value matters here.  `checkValue` tells whether it can be used, and if not, why.
-/
import Switchboard.Pattern.Support

namespace Switchboard.Log

/-! ## Numbers -/

/-- Whether a text is a run of decimal digits, possibly empty. -/
def isDigits (s : List Char) : Bool :=
  s.all (·.isDigit)

/-- What follows the first exponent mark, if there is one. -/
def isExponent : List Char → Bool
  | [] => true
  | _ :: '+' :: digits | _ :: '-' :: digits => !digits.isEmpty && isDigits digits
  | _ :: digits => !digits.isEmpty && isDigits digits

/-- Whether a text without sign is a number: digits with at most one point among them and an
    exponent, or the name of an infinity or of no number. -/
def isUnsignedNumber (s : List Char) : Bool :=
  let mantissa := s.takeWhile fun c => c ≠ 'e' ∧ c ≠ 'E'
  let whole := mantissa.takeWhile (· ≠ '.')
  let fraction := (mantissa.drop whole.length).drop 1
  ["inf", "infinity", "nan"].contains (String.ofList (s.map Char.toLower)) ||
    ((!whole.isEmpty || !fraction.isEmpty) && isDigits whole && isDigits fraction &&
      isExponent (s.drop mantissa.length))

/-! ## Values -/

/-- Whether a text can be the value of a field: a pattern, or a number, which is no pattern only if it
    has a plus sign in front. -/
def checkValue (s : List Char) : Except Pattern.Fault Unit :=
  match s with
  | '+' :: rest => if isUnsignedNumber rest then .ok () else Pattern.check s
  | _ => Pattern.check s

end Switchboard.Log
