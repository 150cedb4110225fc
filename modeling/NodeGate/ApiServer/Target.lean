import NodeGate.Entries
import NodeGate.Text.Decimal
import NodeGate.Text.Utf8

/-!
# Targets of requests

A request goes to a path and may name values behind it. Both are told by an
address: what follows a number sign does not count, and what follows the first
question mark before it is the query. A query is a list of fields between
ampersands, each a name and a value around an equals sign, in which a percent
sign with two hexadecimal digits stands for a byte and all else for itself. The
path is taken as it is. Addresses are composed from names that may hold any
character, so not every address has a target.
-/

namespace NodeGate.ApiServer

open Text

/-- Where a request goes. -/
structure Target where
  path : String
  /-- The fields of the query; of several with one name the last counts. -/
  query : Entries String := []
deriving DecidableEq

namespace Target

/-- The most bytes that an address may have. -/
def maxLength : Nat := 65534

/-- The character behind the last printable one of ASCII. -/
def deleteChar : Char := Char.ofNat 0x7f

/-- Whether a character may stand in a path. -/
def isPathChar (c : Char) : Bool :=
  c > ' ' && c ∉ ['<', '>', Char.ofNat 0x60, deleteChar]

/-- Whether a character may stand in a query. -/
def isQueryChar (c : Char) : Bool :=
  c > ' ' && c ∉ ['\"', '<', '>', deleteChar]

/-- The bytes that a part of a field stands for. -/
def fieldBytes : List Char → List UInt8
  | '%' :: a :: b :: rest =>
    match hexDigitValue? a, hexDigitValue? b with
    | some high, some low => UInt8.ofNat (16 * high + low) :: fieldBytes rest
    | _, _ => 0x25 :: fieldBytes (a :: b :: rest)
  | c :: rest => String.utf8EncodeChar c ++ fieldBytes rest
  | [] => []

/-- The text that a part of a field stands for. -/
def fieldText (part : List Char) : String :=
  String.ofList (Utf8.decode (fieldBytes part))

/-- The name and the value of a field; without an equals sign the value is
empty. -/
def field (text : List Char) : String × String :=
  (fieldText (text.takeWhile (· ≠ '=')), fieldText ((text.dropWhile (· ≠ '=')).drop 1))

/-- The fields of a query, of which empty ones do not count. -/
def fields (query : String) : Entries String :=
  Entries.ofPairs <| (query.splitOn "&").filterMap fun text =>
    if text.isEmpty then none else some (field text.toList)

/-- The target of an address, unless the address is too long or has a character
in a place where it may not stand. -/
def ofAddress? (address : String) : Option Target :=
  let kept := address.toList.takeWhile (· ≠ '#')
  let path := kept.takeWhile (· ≠ '?')
  let query := (kept.dropWhile (· ≠ '?')).drop 1
  if address.utf8ByteSize ≤ maxLength && path.all isPathChar && query.all isQueryChar then
    some { path := String.ofList path, query := fields (String.ofList query) }
  else none

end Target

end NodeGate.ApiServer
