import NodeGate.Text.Decimal

/-!
# Whole numbers at double precision

A whole number kept at double precision has fifty-three significant bits, a
half going to the even neighbour. Its text is the shortest that reads back: the
number with the longest run of zeros at its end that rounds to the same value,
and of two such numbers the nearer.
-/

namespace NodeGate.Text

/-- The quotient rounded to the nearest whole number, a half to the even one. -/
def roundedQuotient (value unit : Nat) : Nat :=
  let below := value / unit
  let rest := value % unit
  if 2 * rest < unit ∨ (2 * rest = unit ∧ below % 2 = 0) then below else below + 1

/-- The gap between the neighbours of a whole number at double precision. -/
def precisionGap (value : Nat) : Nat :=
  Nat.pow 2 (value.log2 - 52)

/-- A whole number at double precision. -/
def toDouble (value : Nat) : Nat :=
  roundedQuotient value (precisionGap value) * precisionGap value

/-- The multiple of a unit beside a value that has the value at double precision;
of two such multiples the nearer. -/
def neighbour? (unit value : Nat) : Option Nat :=
  let below := value / unit * unit
  let above := below + unit
  if toDouble below = value ∧ (toDouble above ≠ value ∨ value - below ≤ above - value) then
    some below
  else if toDouble above = value then some above
  else none

/-- The number with the fewest digits before its final zeros that has the given
value at double precision. -/
def shortestWhole (value : Nat) : Nat :=
  go (decimalText value).length
where
  /-- Tries the units with at most a number of zeros, the largest first. -/
  go : Nat → Nat
    | 0 => value
    | zeros + 1 => (neighbour? (Nat.pow 10 (zeros + 1)) value).getD (go zeros)

/-- The text of a whole number at double precision. -/
def doubleText (value : Nat) : String :=
  decimalText (shortestWhole (toDouble value))

end NodeGate.Text
