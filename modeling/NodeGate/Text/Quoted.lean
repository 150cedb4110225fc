import NodeGate.Text.Decimal
import NodeGate.Text.Unseen

/-!
# Quoted text

The form in which messages show a piece of foreign text: between double quotes,
with the quote, the backslash and the common controls escaped by letter and
every character without a form of its own by number. A single quote stays.
-/

namespace NodeGate.Text

/-- How one character stands in quoted text. -/
def quotedChar (c : Char) : List Char :=
  if c = '\"' then ['\\', '\"']
  else if c = '\\' then ['\\', '\\']
  else if c = '\n' then ['\\', 'n']
  else if c = '\t' then ['\\', 't']
  else if c = '\r' then ['\\', 'r']
  else if c.toNat = 0 then ['\\', '0']
  else if isUnseen c then ['\\', 'u', '\x7b'] ++ hexadecimal c.toNat ++ ['\x7d']
  else [c]

/-- The text between double quotes, with what cannot be shown escaped. -/
def quoted (text : String) : String :=
  String.ofList ('\"' :: text.toList.flatMap quotedChar ++ ['\"'])

end NodeGate.Text
