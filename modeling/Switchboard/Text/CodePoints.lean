/-
  Sets of code points, written as ranges with both ends included.
-/
namespace Switchboard

/-- A set of code points, as a list of ranges. -/
abbrev CodePoints := List (Nat × Nat)

namespace CodePoints

/-- Whether a character is in one of the ranges. -/
def includes (ranges : CodePoints) (c : Char) : Bool :=
  ranges.any fun r => r.1 ≤ c.toNat && c.toNat ≤ r.2

end CodePoints

end Switchboard
