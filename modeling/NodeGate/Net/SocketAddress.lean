import NodeGate.Text.Decimal

/-!
# Socket addresses

An IP address with a port. Version 4 is written in four decimal parts without
leading zeros, version 6 between brackets in hexadecimal groups, where one run
of zero groups may be left out, the last two groups may be written as a version
4 address and a numeric zone may follow. Printing is canonical: the first of the
longest runs of at least two zero groups is left out.
-/

namespace NodeGate

/-- An IP address with a port. -/
inductive SocketAddress where
  /-- A version 4 address by its four parts. -/
  | v4 (parts : List Nat) (port : Nat)
  /-- A version 6 address by its eight groups, with its zone. -/
  | v6 (groups : List Nat) (zone port : Nat)
deriving DecidableEq, Repr

namespace SocketAddress

open NodeGate.Text

/-- The digits at the start of a text under a digit reader, and the rest. -/
def spanDigits (digit? : Char → Option Nat) : List Char → List Nat × List Char
  | [] => ([], [])
  | c :: rest =>
    match digit? c with
    | some digit =>
      let (digits, rest) := spanDigits digit? rest
      (digit :: digits, rest)
    | none => ([], c :: rest)

/-- The number of a run of digits in a base. -/
def ofDigits (base : Nat) (digits : List Nat) : Nat :=
  digits.foldl (fun value digit => base * value + digit) 0

/-- Reads a decimal number up to `limit` with any number of leading zeros. -/
def readNumber (limit : Nat) (text : List Char) : Option (Nat × List Char) :=
  match spanDigits digitValue? text with
  | ([], _) => none
  | (digits, rest) =>
    if ofDigits 10 digits ≤ limit then some (ofDigits 10 digits, rest) else none

/-- Reads one part of a version 4 address. -/
def readPart (text : List Char) : Option (Nat × List Char) :=
  match spanDigits digitValue? text with
  | ([], _) => none
  | (0 :: _ :: _, _) => none
  | (digits, rest) =>
    if digits.length ≤ 3 ∧ ofDigits 10 digits ≤ 255 then some (ofDigits 10 digits, rest)
    else none

/-- Reads a given character. -/
def readMark (mark : Char) : List Char → Option (List Char)
  | c :: rest => if c = mark then some rest else none
  | [] => none

/-- Reads the four parts of a version 4 address. -/
def readParts (text : List Char) : Option (List Nat × List Char) := do
  let (a, rest) ← readPart text
  let (b, rest) ← readPart (← readMark '.' rest)
  let (c, rest) ← readPart (← readMark '.' rest)
  let (d, rest) ← readPart (← readMark '.' rest)
  some ([a, b, c, d], rest)

/-- Reads one group of a version 6 address. -/
def readGroup (text : List Char) : Option (Nat × List Char) :=
  match spanDigits hexDigitValue? text with
  | ([], _) => none
  | (digits, rest) => if digits.length ≤ 4 then some (ofDigits 16 digits, rest) else none

/-- The two groups that a version 4 address fills. -/
def groupsOfParts : List Nat → List Nat
  | [a, b, c, d] => [256 * a + b, 256 * c + d]
  | _ => []

/-- Reads at most `room` groups; a group other than the first follows a colon.
The flag says whether the groups end in a version 4 address. -/
def readGroups (first : Bool) : Nat → List Char → List Nat × Bool × List Char
  | 0, text => ([], false, text)
  | room + 1, text =>
    let start := if first then some text else readMark ':' text
    let embedded := if room = 0 then none else start.bind readParts
    match embedded with
    | some (parts, rest) => (groupsOfParts parts, true, rest)
    | none =>
      match start.bind readGroup with
      | some (group, rest) =>
        let (groups, ended, rest) := readGroups false room rest
        (group :: groups, ended, rest)
      | none => ([], false, text)

/-- Reads the eight groups of a version 6 address. -/
def readAddress (text : List Char) : Option (List Nat × List Char) :=
  match readGroups true 8 text with
  | (head, ended, rest) =>
    if head.length = 8 then some (head, rest)
    else if ended then none
    else do
      let rest ← readMark ':' rest
      let rest ← readMark ':' rest
      let (tail, _, rest) := readGroups true (7 - head.length) rest
      some (head ++ List.replicate (8 - head.length - tail.length) 0 ++ tail, rest)

/-- Reads the port after a colon. -/
def readPort (text : List Char) : Option (Nat × List Char) := do
  readNumber 65535 (← readMark ':' text)

/-- Reads an address of version 4 with its port. -/
def readV4 (text : List Char) : Option SocketAddress := do
  let (parts, rest) ← readParts text
  let (port, rest) ← readPort rest
  if rest.isEmpty then some (.v4 parts port) else none

/-- Reads an address of version 6 with its port. -/
def readV6 (text : List Char) : Option SocketAddress := do
  let (groups, rest) ← readAddress (← readMark '[' text)
  let (zone, rest) ← match readMark '%' rest with
    | some rest => readNumber 4294967295 rest
    | none => some (0, rest)
  let (port, rest) ← readPort (← readMark ']' rest)
  if rest.isEmpty then some (.v6 groups zone port) else none

/-- The address that a text denotes. -/
def parse (text : String) : Option SocketAddress :=
  match readV4 text.toList with
  | some address => some address
  | none => readV6 text.toList

/-- Parts between separators. -/
def joinWith (separator : Char) : List (List Char) → List Char
  | [] => []
  | [part] => part
  | part :: next :: rest => part ++ separator :: joinWith separator (next :: rest)

/-- The number of zero groups at the start. -/
def zeroRun : List Nat → Nat
  | 0 :: rest => zeroRun rest + 1
  | _ => 0

/-- Start and length of the first of the longest runs of zero groups. -/
def longestZeroRun : List Nat → Nat × Nat
  | [] => (0, 0)
  | group :: rest =>
    let (start, length) := longestZeroRun rest
    let here := zeroRun (group :: rest)
    if 0 < here ∧ length ≤ here then (0, here) else (start + 1, length)

/-- A version 4 address in decimal parts. -/
def partsText (parts : List Nat) : List Char :=
  joinWith '.' (parts.map decimal)

/-- A version 6 address in canonical form. -/
def groupsText (groups : List Nat) : List Char :=
  match groups with
  | [0, 0, 0, 0, 0, 0xffff, high, low] =>
    [':', ':', 'f', 'f', 'f', 'f', ':'] ++
      partsText [high / 256, high % 256, low / 256, low % 256]
  | _ =>
    let (start, length) := longestZeroRun groups
    if 1 < length then
      joinWith ':' ((groups.take start).map hexadecimal) ++ ':' :: ':' ::
        joinWith ':' ((groups.drop (start + length)).map hexadecimal)
    else joinWith ':' (groups.map hexadecimal)

/-- The canonical text of an address. -/
def text : SocketAddress → String
  | .v4 parts port => String.ofList (partsText parts ++ ':' :: decimal port)
  | .v6 groups zone port =>
    let scope := if zone = 0 then [] else '%' :: decimal zone
    String.ofList ('[' :: groupsText groups ++ scope ++ ']' :: ':' :: decimal port)

end SocketAddress

end NodeGate
