import NodeGate.Json.Basic
import NodeGate.Text.Decimal

/-!
# Compact JSON text

Values are written without blanks and object members in their order. A text
escapes the quote, the backslash and the controls below the space, by letter
where JSON has one and by four hexadecimal digits otherwise. What cannot be read
is written as `null`.
-/

namespace NodeGate.Json

open NodeGate.Text

/-- How one character stands between the quotes of a JSON text. -/
def escapedChar (c : Char) : List Char :=
  if c = '\"' then ['\\', '\"']
  else if c = '\\' then ['\\', '\\']
  else if c = '\n' then ['\\', 'n']
  else if c = '\r' then ['\\', 'r']
  else if c = '\t' then ['\\', 't']
  else if c.toNat = 8 then ['\\', 'b']
  else if c.toNat = 12 then ['\\', 'f']
  else if c.toNat < 32 then
    ['\\', 'u', '0', '0', hexDigitChar (c.toNat / 16), hexDigitChar (c.toNat % 16)]
  else [c]

/-- A text between quotes. -/
def renderText (text : List Char) : List Char :=
  '\"' :: text.flatMap escapedChar ++ ['\"']

/-- A whole number. -/
def renderInt (value : Int) : List Char :=
  if value < 0 then '-' :: decimal value.natAbs else decimal value.natAbs

mutual

/-- The compact text of a value. -/
def render : Json → List Char
  | .null => ['n', 'u', 'l', 'l']
  | .bool true => ['t', 'r', 'u', 'e']
  | .bool false => ['f', 'a', 'l', 's', 'e']
  | .int value => renderInt value
  | .dec mantissa exponent => renderInt mantissa ++ 'e' :: renderInt exponent
  | .str text => renderText text.toList
  | .arr items => '[' :: renderItems items ++ [']']
  | .obj fields => '\x7b' :: renderMembers fields ++ ['\x7d']
  | .unreadable => ['n', 'u', 'l', 'l']

/-- The items of an array, separated by commas. -/
def renderItems : List Json → List Char
  | [] => []
  | [item] => render item
  | item :: next :: rest => render item ++ ',' :: renderItems (next :: rest)

/-- The members of an object, separated by commas. -/
def renderMembers : List (String × Json) → List Char
  | [] => []
  | [field] => renderMember field
  | field :: next :: rest => renderMember field ++ ',' :: renderMembers (next :: rest)

/-- One member: its name, a colon and its value. -/
def renderMember : String × Json → List Char
  | (name, value) => renderText name.toList ++ ':' :: render value

end

/-- The compact text of a value. -/
def text (value : Json) : String :=
  String.ofList (render value)

end NodeGate.Json
