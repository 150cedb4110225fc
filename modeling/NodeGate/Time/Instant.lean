import NodeGate.Text.Blank
import NodeGate.Text.Decimal
import NodeGate.Time.Date

/-!
# Instants

Points in time, kept as calendar fields in universal time. A second may be the
sixtieth of its minute, which stands for a leap second.

The reader accepts RFC 3339 with some freedom: blanks before each number and
each separator, one digit where two are usual, a space or a small `t` before the
time of day, and any run of colons and blanks inside the offset. The offset is
applied, so the result is in universal time.
-/

namespace NodeGate

/-- A point in time, to the nanosecond. -/
structure Instant where
  date : Date
  hour : Nat
  minute : Nat
  second : Nat
  nanosecond : Nat
deriving DecidableEq, Repr

namespace Instant

open NodeGate.Text

/-- Reads between one and `most` digits. -/
def readUpTo (most : Nat) (text : List Char) : Option (Nat × List Char) :=
  let run := (text.takeWhile fun c => (digitValue? c).isSome).take most
  match run with
  | [] => none
  | _ => (readDigits 0 run).map fun value => (value, text.drop run.length)

/-- Reads any positive number of digits. -/
def readAll (text : List Char) : Option (Nat × List Char) :=
  readUpTo text.length text

/-- Reads a number of one or two digits after optional blanks. -/
def readPair (text : List Char) : Option (Nat × List Char) :=
  readUpTo 2 (trimLeft text)

/-- Reads a separator after optional blanks. -/
def readMark (mark : Char) (text : List Char) : Option (List Char) :=
  match trimLeft text with
  | c :: rest => if c = mark then some rest else none
  | [] => none

/-- Reads a year: up to four digits, or a sign and any number of digits. -/
def readYear (text : List Char) : Option (Int × List Char) :=
  match trimLeft text with
  | '+' :: rest => (readAll rest).map fun (value, rest) => ((value : Int), rest)
  | '-' :: rest => (readAll rest).map fun (value, rest) => (-(value : Int), rest)
  | rest => (readUpTo 4 rest).map fun (value, rest) => ((value : Int), rest)

/-- Reads year, month and day. -/
def readDate (text : List Char) : Option (Date × List Char) := do
  let (year, rest) ← readYear text
  let rest ← readMark '-' rest
  let (month, rest) ← readPair rest
  let rest ← readMark '-' rest
  let (day, rest) ← readPair rest
  some (⟨year, month, day⟩, rest)

/-- Reads an optional fraction of a second and keeps nine digits of it. -/
def readNanosecond : List Char → Option (Nat × List Char)
  | '.' :: rest => do
    let digits := rest.takeWhile fun c => (digitValue? c).isSome
    let kept := digits.take 9
    let (value, _) ← readUpTo 9 rest
    some (value * Nat.pow 10 (9 - kept.length), rest.drop digits.length)
  | text => some (0, text)

/-- Reads the two digits of an hour or a minute of an offset. -/
def readOffsetPair : List Char → Option (Nat × List Char)
  | c :: d :: rest => do
    let tens ← digitValue? c
    let ones ← digitValue? d
    some (10 * tens + ones, rest)
  | _ => none

/-- Reads hours and minutes of an offset after its sign, as minutes. -/
def readOffsetSize (text : List Char) : Option (Nat × List Char) := do
  let (hours, rest) ← readOffsetPair text
  let (minutes, rest) ← readOffsetPair (rest.dropWhile fun c => c == ':' || isBlank c)
  if minutes < 60 ∧ hours < 24 then some (60 * hours + minutes, rest) else none

/-- Reads the distance to universal time, in minutes. -/
def readOffset (text : List Char) : Option (Int × List Char) :=
  match trimLeft text with
  | 'Z' :: rest => some (0, rest)
  | 'z' :: rest => some (0, rest)
  | '+' :: rest => (readOffsetSize rest).map fun (size, rest) => ((size : Int), rest)
  | '-' :: rest => (readOffsetSize rest).map fun (size, rest) => (-(size : Int), rest)
  | '\u2212' :: rest => (readOffsetSize rest).map fun (size, rest) => (-(size : Int), rest)
  | u :: t :: c :: rest =>
    if u.toLower = 'u' ∧ t.toLower = 't' ∧ c.toLower = 'c' then some (0, rest) else none
  | _ => none

/-- The instant in universal time whose local time, `offset` minutes ahead, is
given. -/
def ofLocal (offset : Int) (here : Instant) : Instant :=
  let minutes : Int := 60 * here.hour + here.minute - offset
  let minuteOfDay := (minutes % 1440).toNat
  let date :=
    if minutes < 0 then here.date.previous
    else if minutes < 1440 then here.date
    else here.date.next
  { here with date := date, hour := minuteOfDay / 60, minute := minuteOfDay % 60 }

/-- Reads date, time of day and offset. -/
def read (text : List Char) : Option (Instant × List Char) := do
  let (date, rest) ← readDate text
  let rest ← match rest with
    | c :: rest => if c = 'T' ∨ c = 't' ∨ c = ' ' then some rest else none
    | [] => none
  let (hour, rest) ← readPair rest
  let rest ← readMark ':' rest
  let (minute, rest) ← readPair rest
  let rest ← readMark ':' rest
  let (second, rest) ← readPair rest
  let (nanosecond, rest) ← readNanosecond rest
  let (offset, rest) ← readOffset rest
  if date.isValid && date.inRange && hour < 24 && minute < 60 && second ≤ 60 then
    let instant := ofLocal offset ⟨date, hour, minute, second, nanosecond⟩
    if instant.date.inRange then some (instant, rest) else none
  else none

/-- The instant that a text denotes; blanks may follow it. -/
def parse (text : String) : Option Instant :=
  match read text.toList with
  | some (instant, rest) => if (trimLeft rest).isEmpty then some instant else none
  | none => none

/-- The year in four digits, with a sign where four digits do not suffice. -/
def yearDigits (year : Int) : List Char :=
  if 0 ≤ year ∧ year ≤ 9999 then padded 4 year.toNat
  else (if year < 0 then '-' else '+') :: padded 4 year.natAbs

/-- Date and time of day up to the second. -/
def stem (instant : Instant) : List Char :=
  yearDigits instant.date.year ++ '-' :: padded 2 instant.date.month ++
    '-' :: padded 2 instant.date.day ++ 'T' :: padded 2 instant.hour ++
    ':' :: padded 2 instant.minute ++ ':' :: padded 2 instant.second

/-- The fraction of a second in the fewest of no, three, six and nine digits
that show it all. -/
def fraction (nanosecond : Nat) : List Char :=
  if nanosecond = 0 then []
  else if nanosecond % 1000000 = 0 then '.' :: padded 3 (nanosecond / 1000000)
  else if nanosecond % 1000 = 0 then '.' :: padded 6 (nanosecond / 1000)
  else '.' :: padded 9 nanosecond

/-- The text of an instant with its fraction of a second. -/
def text (instant : Instant) : String :=
  String.ofList (instant.stem ++ fraction instant.nanosecond ++ ['Z'])

/-- The text of an instant in whole seconds; a fraction is dropped. -/
def textInSeconds (instant : Instant) : String :=
  String.ofList (instant.stem ++ ['Z'])

/-- The instant at the start of its second. -/
def wholeSecond (instant : Instant) : Instant :=
  { instant with nanosecond := 0 }

end Instant

end NodeGate
