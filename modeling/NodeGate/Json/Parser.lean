import NodeGate.Json.Basic
import NodeGate.Text.Decimal

/-!
# Reading JSON text

A reader of the JSON grammar. Blanks are the space, the tab, the line feed and
the carriage return. `read` gives the document as it is written: members in
order, with repetitions, and `unreadable` where the grammar is kept but no value
can be had. That is so for a text in which an escaped surrogate is not half of a
pair, for a number beyond the range of a double, for an array or an object that
is nested more than 127 deep and for an object with an unreadable member name. A
whole number that 64 bits cannot hold is read as a decimal fraction. `parse`
demands a document that can be read throughout and gives its value.

The reader works on characters with a fuel argument that `read` computes from
the length of the text; every nested call consumes a character or follows one
that did, so the fuel never runs out before the text does.
-/

namespace NodeGate.Json

open NodeGate.Text

/-- Why a text is no JSON. -/
inductive Misreading where
  /-- It ends too early. -/
  | truncated
  /-- It goes on as no JSON text does. -/
  | malformed
deriving DecidableEq, Repr

/-- What stands at the start of a text, and the rest of the text. -/
abbrev Reading (α : Type) := Except Misreading (α × List Char)

/-- Whether JSON treats the character as a blank. -/
def isSpace (c : Char) : Bool :=
  c == ' ' || c == '\n' || c == '\t' || c == '\r'

/-- The text without its leading blanks. -/
def skipSpace (text : List Char) : List Char :=
  text.dropWhile isSpace

/-- The value of four hexadecimal digits. -/
def codeUnit? (a b c d : Char) : Option Nat := do
  let p ← hexDigitValue? a
  let q ← hexDigitValue? b
  let r ← hexDigitValue? c
  let s ← hexDigitValue? d
  some (((p * 16 + q) * 16 + r) * 16 + s)

/-- The character of a letter escape. -/
def letterEscape? (c : Char) : Option Char :=
  if c = '\"' then some '\"'
  else if c = '\\' then some '\\'
  else if c = '/' then some '/'
  else if c = 'b' then some (Char.ofNat 8)
  else if c = 'f' then some (Char.ofNat 12)
  else if c = 'n' then some '\n'
  else if c = 'r' then some '\r'
  else if c = 't' then some '\t'
  else none

/-- Reads the low half of a surrogate pair whose high half is `high`. -/
def lowHalf? (high : Nat) : List Char → Option (Char × List Char)
  | '\\' :: 'u' :: a :: b :: c :: d :: rest => do
    let low ← codeUnit? a b c d
    if 0xdc00 ≤ low ∧ low < 0xe000 then
      some (Char.ofNat (0x10000 + (high - 0xd800) * 0x400 + (low - 0xdc00)), rest)
    else none
  | _ => none

/-- The character of a code unit and of the low half after it, if it needs one;
half of a pair stands for none. -/
def pairUp (unit : Nat) (rest : List Char) : Option Char × List Char :=
  if unit < 0xd800 ∨ 0xe000 ≤ unit then (some (Char.ofNat unit), rest)
  else if unit < 0xdc00 then
    match lowHalf? unit rest with
    | some (c, rest) => (some c, rest)
    | none => (none, rest)
  else (none, rest)

/-- Reads what follows a backslash. -/
def readEscape : List Char → Reading (Option Char)
  | 'u' :: a :: b :: c :: d :: rest =>
    match codeUnit? a b c d with
    | some unit => .ok (pairUp unit rest)
    | none => .error .malformed
  | 'u' :: _ => .error .truncated
  | c :: rest =>
    match letterEscape? c with
    | some meant => .ok (some meant, rest)
    | none => .error .malformed
  | [] => .error .truncated

/-- Reads the characters of a text up to its closing quote. -/
def readText : Nat → List Char → Reading (Option (List Char))
  | 0, _ => .error .malformed
  | _ + 1, [] => .error .truncated
  | fuel + 1, c :: rest =>
    if c = '\"' then .ok (some [], rest)
    else if c = '\\' then
      match readEscape rest with
      | .error fault => .error fault
      | .ok (meant, rest) =>
        match readText fuel rest with
        | .error fault => .error fault
        | .ok (text, rest) => .ok (text.bind fun text => meant.map (· :: text), rest)
    else if c.toNat < 32 then .error .malformed
    else
      match readText fuel rest with
      | .error fault => .error fault
      | .ok (text, rest) => .ok (text.map (c :: ·), rest)

/-- The longest run of digits at the start of a text, and the rest. -/
def digitRun (text : List Char) : List Char × List Char :=
  (text.takeWhile fun c => (digitValue? c).isSome,
    text.dropWhile fun c => (digitValue? c).isSome)

/-- Reads at least one digit. -/
def readRun (text : List Char) : Reading (List Char) :=
  match digitRun text with
  | ([], []) => .error .truncated
  | ([], _) => .error .malformed
  | run => .ok run

/-- The number of a run of digits. -/
def runValue (digits : List Char) : Nat :=
  (readDigits 0 digits).getD 0

/-- Reads the digits after a decimal point; without a point there are none. -/
def readFraction : List Char → Reading (List Char)
  | '.' :: rest => readRun rest
  | text => .ok ([], text)

/-- Reads an exponent part; without one there is none. -/
def readExponent : List Char → Reading (Option Int)
  | 'e' :: rest => signed rest
  | 'E' :: rest => signed rest
  | text => .ok (none, text)
where
  /-- The digits of the exponent under a sign. -/
  digits (sign : Int) (text : List Char) : Reading (Option Int) :=
    (readRun text).map fun (run, rest) => (some (sign * runValue run), rest)
  /-- An optional sign and digits. -/
  signed : List Char → Reading (Option Int)
    | '+' :: rest => digits 1 rest
    | '-' :: rest => digits (-1) rest
    | text => digits 1 text

/-- Whether `mantissa * 10 ^ exponent` rounds to a finite double. -/
def inDoubleRange (mantissa : Nat) (exponent : Int) : Bool :=
  if mantissa = 0 ∨ exponent < 0 - 400 - (decimal mantissa).length then true
  else if 400 < exponent then false
  else if exponent < 0 then
    mantissa < (Nat.pow 2 1024 - Nat.pow 2 970) * Nat.pow 10 exponent.natAbs
  else mantissa * Nat.pow 10 exponent.natAbs < Nat.pow 2 1024 - Nat.pow 2 970

/-- The number `mantissa * 10 ^ exponent` under a sign, if a double can hold it. -/
def decimalValue (negative : Bool) (mantissa : Nat) (exponent : Int) : Json :=
  if inDoubleRange mantissa exponent then
    .dec (if negative then -(mantissa : Int) else mantissa) exponent
  else .unreadable

/-- The value of a number written as sign, whole digits, fraction digits and
exponent. -/
def numberValue (negative : Bool) (whole fraction : List Char) (exponent : Option Int) : Json :=
  match fraction, exponent with
  | [], none =>
    let value := runValue whole
    if negative then
      if 0 < value ∧ value ≤ Nat.pow 2 63 then .int (-(value : Int)) else decimalValue true value 0
    else if value < Nat.pow 2 64 then .int value
    else decimalValue false value 0
  | _, _ =>
    decimalValue negative (runValue (whole ++ fraction)) (exponent.getD 0 - fraction.length)

/-- Reads a number after its sign. -/
def readUnsignedNumber (negative : Bool) (text : List Char) : Reading Json :=
  match readRun text with
  | .error fault => .error fault
  | .ok ('0' :: _ :: _, _) => .error .malformed
  | .ok (whole, rest) =>
    match readFraction rest with
    | .error fault => .error fault
    | .ok (fraction, rest) =>
      (readExponent rest).map fun (exponent, rest) =>
        (numberValue negative whole fraction exponent, rest)

/-- Reads a number. -/
def readNumber : List Char → Reading Json
  | '-' :: rest => readUnsignedNumber true rest
  | text => readUnsignedNumber false text

/-- Reads the rest of a literal whose first letter is gone. -/
def readLiteral (value : Json) : List Char → List Char → Reading Json
  | [], text => .ok (value, text)
  | expected :: more, c :: rest =>
    if c = expected then readLiteral value more rest else .error .malformed
  | _ :: _, [] => .error .truncated

/-- Reads a value that is no container, given its first character. -/
def readScalar (fuel : Nat) (c : Char) (rest : List Char) : Reading Json :=
  if c = '\"' then
    (readText fuel rest).map fun (text, rest) =>
      (match text with
        | some text => .str (String.ofList text)
        | none => .unreadable, rest)
  else if c = 'n' then readLiteral .null ['u', 'l', 'l'] rest
  else if c = 't' then readLiteral (.bool true) ['r', 'u', 'e'] rest
  else if c = 'f' then readLiteral (.bool false) ['a', 'l', 's', 'e'] rest
  else readNumber (c :: rest)

/-- The brackets of a container. -/
inductive Bracket where
  | square
  | curly
deriving DecidableEq, Repr

/-- What is to come inside containers. -/
inductive Awaited where
  /-- A value. -/
  | value
  /-- The name of a member and its colon. -/
  | name
  /-- A comma or a closing bracket. -/
  | separator
deriving DecidableEq, Repr

/-- The opening bracket. -/
def Bracket.opening : Bracket → Char
  | .square => '['
  | .curly => '\x7b'

/-- The closing bracket. -/
def Bracket.closing : Bracket → Char
  | .square => ']'
  | .curly => '\x7d'

/-- What each entry of a container starts with. -/
def Bracket.awaited : Bracket → Awaited
  | .square => .value
  | .curly => .name

/-- The bracket that a character opens. -/
def Bracket.ofOpening? (c : Char) : Option Bracket :=
  if c = Bracket.square.opening then some .square
  else if c = Bracket.curly.opening then some .curly
  else none

/-- Passes over the rest of a value inside the given containers, the innermost
first. However deep they nest, only the list of them grows. -/
def passOver : Nat → Awaited → List Bracket → List Char → Except Misreading (List Char)
  | 0, _, _, _ => .error .malformed
  | _ + 1, .separator, [], text => .ok text
  | fuel + 1, .separator, bracket :: outer, text =>
    match skipSpace text with
    | [] => .error .truncated
    | c :: rest =>
      if c = ',' then passOver fuel bracket.awaited (bracket :: outer) rest
      else if c = bracket.closing then passOver fuel .separator outer rest
      else .error .malformed
  | fuel + 1, .name, brackets, text =>
    match skipSpace text with
    | [] => .error .truncated
    | c :: rest =>
      if c = '\"' then
        match readText fuel rest with
        | .error fault => .error fault
        | .ok (_, rest) =>
          match skipSpace rest with
          | [] => .error .truncated
          | c :: rest => if c = ':' then passOver fuel .value brackets rest else .error .malformed
      else .error .malformed
  | fuel + 1, .value, brackets, text =>
    match skipSpace text with
    | [] => .error .truncated
    | c :: rest =>
      match Bracket.ofOpening? c with
      | some bracket =>
        match skipSpace rest with
        | [] => .error .truncated
        | d :: after =>
          if d = bracket.closing then passOver fuel .separator brackets after
          else passOver fuel bracket.awaited (bracket :: brackets) (d :: after)
      | none =>
        match readScalar fuel c rest with
        | .error fault => .error fault
        | .ok (_, rest) => passOver fuel .separator brackets rest

mutual

/-- Reads one value, with `depth` levels of nesting left. -/
def readValue : Nat → Nat → List Char → Reading Json
  | 0, _, _ => .error .malformed
  | fuel + 1, depth, text =>
    match skipSpace text with
    | [] => .error .truncated
    | c :: rest =>
      match Bracket.ofOpening? c, depth with
      | none, _ => readScalar fuel c rest
      | some _, 0 => (passOver fuel .value [] (c :: rest)).map fun rest => (.unreadable, rest)
      | some .square, depth + 1 => readArray fuel depth rest
      | some .curly, depth + 1 => readObject fuel depth rest

/-- Reads an array after its opening bracket. -/
def readArray : Nat → Nat → List Char → Reading Json
  | 0, _, _ => .error .malformed
  | fuel + 1, depth, text =>
    match skipSpace text with
    | [] => .error .truncated
    | c :: rest =>
      if c = ']' then .ok (.arr [], rest)
      else (readItems fuel depth (c :: rest)).map fun (items, rest) => (.arr items, rest)

/-- Reads the items of an array and its closing bracket. -/
def readItems : Nat → Nat → List Char → Reading (List Json)
  | 0, _, _ => .error .malformed
  | fuel + 1, depth, text =>
    match readValue fuel depth text with
    | .error fault => .error fault
    | .ok (item, rest) =>
      match skipSpace rest with
      | [] => .error .truncated
      | c :: rest =>
        if c = ']' then .ok ([item], rest)
        else if c = ',' then
          (readItems fuel depth rest).map fun (items, rest) => (item :: items, rest)
        else .error .malformed

/-- Reads an object after its opening brace. -/
def readObject : Nat → Nat → List Char → Reading Json
  | 0, _, _ => .error .malformed
  | fuel + 1, depth, text =>
    match skipSpace text with
    | [] => .error .truncated
    | c :: rest =>
      if c = '\x7d' then .ok (.obj [], rest)
      else
        (readMembers fuel depth (c :: rest)).map fun (fields, rest) =>
          (match fields with
            | some fields => .obj fields
            | none => .unreadable, rest)

/-- Reads the members of an object and its closing brace. -/
def readMembers : Nat → Nat → List Char → Reading (Option (List (String × Json)))
  | 0, _, _ => .error .malformed
  | fuel + 1, depth, text =>
    match readMember fuel depth text with
    | .error fault => .error fault
    | .ok (field, rest) =>
      match skipSpace rest with
      | [] => .error .truncated
      | c :: rest =>
        if c = '\x7d' then .ok (field.map fun field => [field], rest)
        else if c = ',' then
          (readMembers fuel depth rest).map fun (fields, rest) =>
            (field.bind fun field => fields.map (field :: ·), rest)
        else .error .malformed

/-- Reads one member of an object. -/
def readMember : Nat → Nat → List Char → Reading (Option (String × Json))
  | 0, _, _ => .error .malformed
  | fuel + 1, depth, text =>
    match skipSpace text with
    | [] => .error .truncated
    | c :: rest =>
      if c = '\"' then
        match readText fuel rest with
        | .error fault => .error fault
        | .ok (name, rest) =>
          match skipSpace rest with
          | [] => .error .truncated
          | c :: rest =>
            if c = ':' then
              (readValue fuel depth rest).map fun (value, rest) =>
                (name.map fun name => (String.ofList name, value), rest)
            else .error .malformed
      else .error .malformed

end

/-- The document that a text is, as it is written. -/
def read (text : String) : Except Misreading Json :=
  let characters := text.toList
  match readValue (4 * characters.length + 4) 127 characters with
  | .ok (value, rest) => if (skipSpace rest).isEmpty then .ok value else .error .malformed
  | .error fault => .error fault

/-- The value that a text denotes, if it is JSON that can be read throughout. -/
def parse (text : String) : Option Json :=
  match read text with
  | .ok json => json.settled?
  | .error _ => none

end NodeGate.Json
