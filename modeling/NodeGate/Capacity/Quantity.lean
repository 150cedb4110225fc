import NodeGate.Text.Blank
import NodeGate.Text.Decimal
import NodeGate.Text.Quoted

/-!
# Resource quantities

A quantity such as `250m`, `1.5`, `4Gi` or `129e6` is kept exactly, as a whole
mantissa times a binary factor times a power of ten. The mantissa lies below
`2 ^ 128` and the exponent within 32 bits. Measuring rounds up to whole units
and stops at the largest number of 64 bits; a product of mantissa and binary
factor, or a power of ten, that needs more than 128 bits stops there too.
-/

namespace NodeGate

/-- The exact value `mantissa * binary * 10 ^ exponent`. -/
structure Quantity where
  mantissa : Nat
  binary : Nat
  exponent : Int
deriving DecidableEq, Repr

/-- A resource whose requests count. -/
inductive ResourceKind where
  | cpu
  | memory
deriving DecidableEq, Repr

/-- The name of a resource. -/
def ResourceKind.name : ResourceKind → String
  | .cpu => "cpu"
  | .memory => "memory"

/-- A text that is no quantity, with the resource it was requested of. -/
structure QuantityFault where
  resource : ResourceKind
  quantity : String
deriving DecidableEq, Repr

/-- The wording of a quantity fault. -/
def QuantityFault.message (fault : QuantityFault) : String :=
  "invalid quantity " ++ Text.quoted fault.quantity ++ " for " ++ fault.resource.name

namespace Quantity

open NodeGate.Text

/-- The bound of the mantissa and of intermediate products. -/
def wordBound : Nat := Nat.pow 2 128

/-- The largest measure. -/
def maxMeasure : Nat := Nat.pow 2 64 - 1

/-- Whether the character belongs to the numeral of a quantity. -/
def isNumeral (c : Char) : Bool :=
  (digitValue? c).isSome || c == '.'

/-- The digits before and after the first point. -/
def splitPoint (numeral : List Char) : List Char × List Char :=
  (numeral.takeWhile (· != '.'), (numeral.dropWhile (· != '.')).drop 1)

/-- The binary factor and the power of ten that a suffix stands for. -/
def suffixScale? (suffix : String) : Option (Nat × Int) :=
  if suffix = "" then some (1, 0)
  else if suffix = "n" then some (1, -9)
  else if suffix = "u" then some (1, -6)
  else if suffix = "m" then some (1, -3)
  else if suffix = "k" then some (1, 3)
  else if suffix = "M" then some (1, 6)
  else if suffix = "G" then some (1, 9)
  else if suffix = "T" then some (1, 12)
  else if suffix = "P" then some (1, 15)
  else if suffix = "E" then some (1, 18)
  else if suffix = "Ki" then some (Nat.pow 2 10, 0)
  else if suffix = "Mi" then some (Nat.pow 2 20, 0)
  else if suffix = "Gi" then some (Nat.pow 2 30, 0)
  else if suffix = "Ti" then some (Nat.pow 2 40, 0)
  else if suffix = "Pi" then some (Nat.pow 2 50, 0)
  else if suffix = "Ei" then some (Nat.pow 2 60, 0)
  else none

/-- The scale of a suffix: one of the named ones, or an exponent of ten. -/
def scale? (suffix : List Char) : Option (Nat × Int) :=
  match suffixScale? (String.ofList suffix) with
  | some scale => some scale
  | none =>
    match suffix with
    | c :: rest =>
      if c = 'e' ∨ c = 'E' then
        (readSigned (Nat.pow 2 31) (Nat.pow 2 31 - 1) rest).map fun exponent => (1, exponent)
      else none
    | [] => none

/-- The quantity text without blanks at its ends and without one plus sign. -/
def body (text : List Char) : List Char :=
  match trim text with
  | '+' :: rest => rest
  | rest => rest

/-- The quantity that a text denotes. -/
def parse (text : String) : Option Quantity :=
  let characters := body text.toList
  let (whole, fraction) := splitPoint (characters.takeWhile isNumeral)
  if whole.isEmpty && fraction.isEmpty then none
  else
    match readDigits 0 (whole ++ fraction), scale? (characters.dropWhile isNumeral) with
    | some mantissa, some (binary, power) =>
      let exponent := power - fraction.length
      if mantissa < wordBound ∧ fraction.length < Nat.pow 2 31 ∧ -(Int.pow 2 31) ≤ exponent then
        some ⟨mantissa, binary, exponent⟩
      else none
    | _, _ => none

/-- The quantity in units of `10 ^ -places`, rounded up. -/
def measure (places : Nat) (quantity : Quantity) : Nat :=
  let value := quantity.mantissa * quantity.binary
  let exponent := quantity.exponent + places
  if wordBound ≤ value then maxMeasure
  else if 0 ≤ exponent then
    if 38 < exponent then maxMeasure else min (value * Nat.pow 10 exponent.toNat) maxMeasure
  else if exponent < -38 then min value 1
  else min ((value + (Nat.pow 10 exponent.natAbs - 1)) / Nat.pow 10 exponent.natAbs) maxMeasure

/-- A processor quantity in thousandths of a core, rounded up. -/
def cpuMillis (text : String) : Except QuantityFault Nat :=
  match parse text with
  | some quantity => .ok (quantity.measure 3)
  | none => .error ⟨.cpu, text⟩

/-- A memory quantity in bytes, rounded up. -/
def memoryBytes (text : String) : Except QuantityFault Nat :=
  match parse text with
  | some quantity => .ok (quantity.measure 0)
  | none => .error ⟨.memory, text⟩

end Quantity

end NodeGate
