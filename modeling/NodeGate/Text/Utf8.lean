/-!
# Reading bytes as text

Bytes are read as UTF-8. What is no UTF-8 does not stop the reading: each longest
run of bytes that starts a character and does not end one, and each byte that
starts none, is read as one replacement character.
-/

namespace NodeGate.Text.Utf8

/-- The character that stands for bytes that are no text. -/
def replacement : Char := Char.ofNat 0xfffd

/-- The bytes of a character, as far as they are read. -/
structure Sequence where
  /-- The number that the bytes so far amount to. -/
  value : Nat
  /-- How many bytes are still to come. -/
  remaining : Nat
  /-- The least and the greatest byte that may come next. -/
  low : Nat := 0x80
  high : Nat := 0xbf
deriving DecidableEq, Repr

/-- The sequence that a byte starts. The second byte is bounded so that no
character is written in more bytes than it needs, and no surrogate at all. -/
def Sequence.started? (byte : Nat) : Option Sequence :=
  if byte < 0x80 then some { value := byte, remaining := 0 }
  else if 0xc2 ≤ byte ∧ byte < 0xe0 then some { value := byte - 0xc0, remaining := 1 }
  else if 0xe0 ≤ byte ∧ byte < 0xf0 then
    some {
      value := byte - 0xe0
      remaining := 2
      low := if byte = 0xe0 then 0xa0 else 0x80
      high := if byte = 0xed then 0x9f else 0xbf }
  else if 0xf0 ≤ byte ∧ byte < 0xf5 then
    some {
      value := byte - 0xf0
      remaining := 3
      low := if byte = 0xf0 then 0x90 else 0x80
      high := if byte = 0xf4 then 0x8f else 0xbf }
  else none

/-- The sequence with one more byte. -/
def Sequence.extended? (byte : Nat) (sequence : Sequence) : Option Sequence :=
  if sequence.low ≤ byte ∧ byte ≤ sequence.high then
    some { value := sequence.value * 64 + (byte - 0x80), remaining := sequence.remaining - 1 }
  else none

/-- Reads bytes that follow those of an unfinished sequence, if there is one. -/
def decodeAfter (pending : Option Sequence) : List UInt8 → List Char
  | [] => if pending.isSome then [replacement] else []
  | byte :: rest =>
    let continued := pending.bind (Sequence.extended? byte.toNat)
    let broken := if pending.isSome && continued.isNone then [replacement] else []
    match continued <|> Sequence.started? byte.toNat with
    | none => broken ++ replacement :: decodeAfter none rest
    | some sequence =>
      if sequence.remaining = 0 then broken ++ Char.ofNat sequence.value :: decodeAfter none rest
      else broken ++ decodeAfter (some sequence) rest

/-- The text that bytes are read as. -/
def decode (bytes : List UInt8) : List Char :=
  decodeAfter none bytes

example : decode [0xe2, 0x82, 0xac, 0x41] = ['€', 'A'] := by decide

example : decode [0xe2, 0x82, 0x41, 0xff, 0xc0] =
    [replacement, 'A', replacement, replacement] := by decide

end NodeGate.Text.Utf8
