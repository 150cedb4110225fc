/-!
# Decimal numerals

Writing a natural number in decimal, reading a run of decimal digits back, and
the readers that accept a bounded whole number with an optional sign. Only the
ten ASCII digits count as digits.
-/

namespace NodeGate.Text

/-- The ASCII digit of a number below ten. -/
def digitChar (value : Nat) : Char :=
  Char.ofNat (48 + value)

/-- The value of an ASCII digit. -/
def digitValue? (c : Char) : Option Nat :=
  if '0' ≤ c ∧ c ≤ '9' then some (c.toNat - 48) else none

/-- The decimal numeral of a natural number, without leading zeros. -/
def decimal (value : Nat) : List Char :=
  if value < 10 then [digitChar value]
  else decimal (value / 10) ++ [digitChar (value % 10)]
termination_by value

/-- The number that a run of digits denotes when digits already read amount to
`read`; `none` when some character is no digit. -/
def readDigits (read : Nat) : List Char → Option Nat
  | [] => some read
  | c :: rest =>
    match digitValue? c with
    | some digit => readDigits (10 * read + digit) rest
    | none => none

/-- Why a text is no whole number of the wanted range. -/
inductive NumeralFault where
  /-- The text is empty. -/
  | empty
  /-- A character is no digit, or nothing follows the sign. -/
  | invalidDigit
  /-- The number exceeds the range. -/
  | tooLarge
deriving DecidableEq, Repr

/-- The wording of a numeral fault. -/
def NumeralFault.message : NumeralFault → String
  | .empty => "cannot parse integer from empty string"
  | .invalidDigit => "invalid digit found in string"
  | .tooLarge => "number too large to fit in target type"

/-- Reads digits from left to right up to `limit`. The first character that is
no digit, or the first digit that leads beyond the limit, decides the fault. -/
def readBounded (limit read : Nat) : List Char → Except NumeralFault Nat
  | [] => .ok read
  | c :: rest =>
    match digitValue? c with
    | none => .error .invalidDigit
    | some digit =>
      if 10 * read + digit ≤ limit then readBounded limit (10 * read + digit) rest
      else .error .tooLarge

/-- Reads an unsigned number up to `limit`: an optional plus sign and at least
one digit, with any number of leading zeros. -/
def readUnsigned (limit : Nat) : List Char → Except NumeralFault Nat
  | [] => .error .empty
  | ['+'] => .error .invalidDigit
  | '+' :: digits => readBounded limit 0 digits
  | digits => readBounded limit 0 digits

/-- Reads a signed number between `-below` and `above`: an optional sign and at
least one digit. -/
def readSigned (below above : Nat) : List Char → Option Int
  | [] => none
  | '+' :: digits => if digits.isEmpty then none else within above 1 digits
  | '-' :: digits => if digits.isEmpty then none else within below (-1) digits
  | digits => within above 1 digits
where
  /-- The run of digits times the sign, if the run stays within the limit. -/
  within (limit : Nat) (sign : Int) (digits : List Char) : Option Int :=
    match readDigits 0 digits with
    | some value => if value ≤ limit then some (sign * value) else none
    | none => none

/-- The decimal numeral of a natural number as text. -/
def decimalText (value : Nat) : String :=
  String.ofList (decimal value)

/-- The decimal numeral of a whole number as text. -/
def integerText (value : Int) : String :=
  if value < 0 then "-" ++ decimalText value.natAbs else decimalText value.natAbs

/-- The numeral padded with zeros on the left to at least `width` digits. -/
def padded (width value : Nat) : List Char :=
  let digits := decimal value
  List.replicate (width - digits.length) '0' ++ digits

/-- The hexadecimal digit of a number below sixteen, in lower case. -/
def hexDigitChar (value : Nat) : Char :=
  if value < 10 then Char.ofNat (48 + value) else Char.ofNat (87 + value)

/-- The value of a hexadecimal digit of either case. -/
def hexDigitValue? (c : Char) : Option Nat :=
  if '0' ≤ c ∧ c ≤ '9' then some (c.toNat - 48)
  else if 'a' ≤ c ∧ c ≤ 'f' then some (c.toNat - 87)
  else if 'A' ≤ c ∧ c ≤ 'F' then some (c.toNat - 55)
  else none

/-- The hexadecimal numeral of a natural number, in lower case and without
leading zeros. -/
def hexadecimal (value : Nat) : List Char :=
  if value < 16 then [hexDigitChar value]
  else hexadecimal (value / 16) ++ [hexDigitChar (value % 16)]
termination_by value

end NodeGate.Text
