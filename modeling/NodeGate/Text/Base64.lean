/-!
# Base 64

The standard alphabet with padding. Three bytes become four characters; one or
two bytes left over are padded with the character `=`. Decoding accepts padded
text whose unused low bits are zero.
-/

namespace NodeGate.Text.Base64

/-- The character for a six-bit group. -/
def symbol (group : Nat) : Char :=
  if group < 26 then Char.ofNat (65 + group)
  else if group < 52 then Char.ofNat (71 + group)
  else if group < 62 then Char.ofNat (group - 4)
  else if group = 62 then '+'
  else '/'

/-- The six-bit group of a character of the alphabet. -/
def group? (c : Char) : Option Nat :=
  if 'A' ≤ c ∧ c ≤ 'Z' then some (c.toNat - 65)
  else if 'a' ≤ c ∧ c ≤ 'z' then some (c.toNat - 71)
  else if '0' ≤ c ∧ c ≤ '9' then some (c.toNat + 4)
  else if c = '+' then some 62
  else if c = '/' then some 63
  else none

/-- Encodes bytes three at a time. -/
def encode : List UInt8 → List Char
  | [] => []
  | [a] =>
    let x := a.toNat
    [symbol (x / 4), symbol (x % 4 * 16), '=', '=']
  | [a, b] =>
    let x := a.toNat
    let y := b.toNat
    [symbol (x / 4), symbol (x % 4 * 16 + y / 16), symbol (y % 16 * 4), '=']
  | a :: b :: c :: rest =>
    let x := a.toNat
    let y := b.toNat
    let z := c.toNat
    symbol (x / 4) :: symbol (x % 4 * 16 + y / 16) :: symbol (y % 16 * 4 + z / 64) ::
      symbol (z % 64) :: encode rest

/-- Decodes four characters at a time; `none` for text that no encoding yields. -/
def decode : List Char → Option (List UInt8)
  | [] => some []
  | [p, q, '=', '='] => do
    let x ← group? p
    let y ← group? q
    if y % 16 = 0 then some [UInt8.ofNat (x * 4 + y / 16)] else none
  | [p, q, r, '='] => do
    let x ← group? p
    let y ← group? q
    let z ← group? r
    if z % 4 = 0 then
      some [UInt8.ofNat (x * 4 + y / 16), UInt8.ofNat (y % 16 * 16 + z / 4)]
    else none
  | p :: q :: r :: s :: rest => do
    let x ← group? p
    let y ← group? q
    let z ← group? r
    let w ← group? s
    let tail ← decode rest
    some (UInt8.ofNat (x * 4 + y / 16) :: UInt8.ofNat (y % 16 * 16 + z / 4) ::
      UInt8.ofNat (z % 4 * 64 + w) :: tail)
  | _ => none

/-- Encodes the UTF-8 bytes of a text. -/
def encodeText (text : String) : String :=
  String.ofList (encode text.toUTF8.toList)

/-- Decodes to text; `none` when the characters are no encoding, or the bytes
are not UTF-8. -/
def decodeText? (text : String) : Option String := do
  let bytes ← decode text.toList
  String.fromUTF8? (ByteArray.mk bytes.toArray)

end NodeGate.Text.Base64
