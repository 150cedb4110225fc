import NodeGate.Json.Basic
import NodeGate.Text.Decimal

/-!
# Adding at a place in a document

A pointer names a place in a document by the member names and list positions on
the way to it, each behind a slash. In a part, `~1` stands for the slash and
`~0` for the tilde. Adding sets a member of an object, whether or not there is
one, and inserts an item in front of the one at a position; a dash is the
position behind the last item. What holds the place must be there.
-/

namespace NodeGate.Json

open NodeGate.Text

/-- The parts of a text between its slashes. -/
def slashParts : List Char → List (List Char)
  | [] => [[]]
  | c :: rest =>
    if c = '/' then [] :: slashParts rest
    else
      match slashParts rest with
      | part :: parts => (c :: part) :: parts
      | [] => [[c]]

/-- The name that a part stands for. -/
def pointerName : List Char → List Char
  | '~' :: '0' :: rest => '~' :: pointerName rest
  | '~' :: '1' :: rest => '/' :: pointerName rest
  | c :: rest => c :: pointerName rest
  | [] => []

/-- The names on the way to the place of a pointer. -/
def pointerNames? (pointer : String) : Option (List String) :=
  match pointer.toList with
  | [] => some []
  | c :: rest =>
    if c = '/' then some ((slashParts rest).map fun part => String.ofList (pointerName part))
    else none

/-- The list position that a part stands for, if it lies within a bound. -/
def position? (bound : Nat) (part : String) : Option Nat :=
  match part.toList with
  | ['0'] => some 0
  | '0' :: _ => none
  | digits =>
    if digits.isEmpty then none
    else (readDigits 0 digits).filter (· ≤ bound)

/-- The position in a list at which an item is added. -/
def addPosition? (items : List Json) (part : String) : Option Nat :=
  if part = "-" then some items.length else position? items.length part

/-- The document with a value added at the place that the names lead to. -/
def addAt? (value : Json) : List String → Json → Option Json
  | [], _ => some value
  | [name], .obj fields => some (.obj (Entries.insert name value fields))
  | [part], .arr items =>
    (addPosition? items part).map fun place =>
      .arr (items.take place ++ value :: items.drop place)
  | name :: next :: rest, .obj fields => do
    let changed ← addAt? value (next :: rest) (← Entries.get? name fields)
    some (.obj (Entries.insert name changed fields))
  | part :: next :: rest, .arr items => do
    let place ← position? items.length part
    let changed ← addAt? value (next :: rest) (← items[place]?)
    some (.arr (items.set place changed))
  | _, _ => none

/-- The document with a value added at the place of a pointer. -/
def add? (pointer : String) (value document : Json) : Option Json := do
  addAt? value (← pointerNames? pointer) document

end NodeGate.Json
