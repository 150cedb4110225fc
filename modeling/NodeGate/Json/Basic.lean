import NodeGate.Entries

/-!
# JSON values

The document type in which cluster objects, patches and answers are exchanged.
Whole numbers of 64 bits are kept exactly; any other number is kept as a decimal
mantissa and exponent. The members of an object are sorted entries.

A document as it is written is of this type too: its members stand in the order
of the text, with repetitions, and what is well-formed but cannot be read is
marked. `settled?` is the value that such a document stands for.
-/

namespace NodeGate

/-- A JSON value. -/
inductive Json where
  /-- The literal `null`. -/
  | null
  /-- A truth value. -/
  | bool (value : Bool)
  /-- A whole number. -/
  | int (value : Int)
  /-- The number `mantissa * 10 ^ exponent`. -/
  | dec (mantissa exponent : Int)
  /-- A text. -/
  | str (text : String)
  /-- A sequence of values. -/
  | arr (items : List Json)
  /-- A collection of named values, sorted by name. -/
  | obj (fields : List (String × Json))
  /-- What is well-formed and can only be passed over: a text with half of a
  surrogate pair, a number beyond the range, or nesting too deep to follow. -/
  | unreadable
deriving Inhabited

namespace Json

/-- A natural number as a JSON number. -/
def nat (value : Nat) : Json :=
  .int value

/-- A list of texts. -/
def strings (texts : List String) : Json :=
  .arr (texts.map .str)

/-- An object whose members are all texts. -/
def textEntries (entries : Entries String) : Json :=
  .obj (entries.map fun entry => (entry.1, .str entry.2))

/-- A text, or `null` without one. -/
def strOrNull : Option String → Json
  | some text => .str text
  | none => .null

/-- The member list with one member when there is a value, and none otherwise. -/
def present (name : String) : Option Json → List (String × Json)
  | some value => [(name, value)]
  | none => []

/-- The member of an object by name; other values have no members. -/
def member? (name : String) : Json → Option Json
  | .obj fields => Entries.get? name fields
  | _ => none

/-- The members of an object; other values have none. -/
def members : Json → List (String × Json)
  | .obj fields => fields
  | _ => []

/-- The object with one member set; a value that is no object is replaced. -/
def withMember (name : String) (value : Json) : Json → Json
  | .obj fields => .obj (Entries.insert name value fields)
  | _ => .obj [(name, value)]

mutual

/-- The value that a document as it is written stands for, if all of it can be
read: the members are sorted, and of several with one name the last counts. -/
def settled? : Json → Option Json
  | .null => some .null
  | .bool value => some (.bool value)
  | .int value => some (.int value)
  | .dec mantissa exponent => some (.dec mantissa exponent)
  | .str text => some (.str text)
  | .arr items => (settledItems? items).map .arr
  | .obj fields => (settledMembers? fields).map fun fields => .obj (Entries.ofPairs fields)
  | .unreadable => none

/-- The values that items stand for. -/
def settledItems? : List Json → Option (List Json)
  | [] => some []
  | item :: rest => do
    let value ← settled? item
    let values ← settledItems? rest
    some (value :: values)

/-- The values that members stand for. -/
def settledMembers? : List (String × Json) → Option (List (String × Json))
  | [] => some []
  | (name, item) :: rest => do
    let value ← settled? item
    let values ← settledMembers? rest
    some ((name, value) :: values)

end

/-- Whether all of a document can be read. -/
def isReadable (json : Json) : Bool :=
  json.settled?.isSome

mutual

/-- Decides whether two values are the same. -/
def sameness : (value other : Json) → Decidable (value = other)
  | .null, .null => .isTrue rfl
  | .bool value, .bool other => decidable_of_iff (value = other) (by simp)
  | .int value, .int other => decidable_of_iff (value = other) (by simp)
  | .dec mantissa exponent, .dec otherMantissa otherExponent =>
    decidable_of_iff (mantissa = otherMantissa ∧ exponent = otherExponent) (by simp)
  | .str text, .str other => decidable_of_iff (text = other) (by simp)
  | .arr items, .arr others =>
    have := itemsSameness items others
    decidable_of_iff (items = others) (by simp)
  | .obj fields, .obj others =>
    have := membersSameness fields others
    decidable_of_iff (fields = others) (by simp)
  | .unreadable, .unreadable => .isTrue rfl
  | .null, .bool _ | .null, .int _ | .null, .dec _ _ | .null, .str _ | .null, .arr _
  | .null, .obj _ | .null, .unreadable
  | .bool _, .null | .bool _, .int _ | .bool _, .dec _ _ | .bool _, .str _ | .bool _, .arr _
  | .bool _, .obj _ | .bool _, .unreadable
  | .int _, .null | .int _, .bool _ | .int _, .dec _ _ | .int _, .str _ | .int _, .arr _
  | .int _, .obj _ | .int _, .unreadable
  | .dec _ _, .null | .dec _ _, .bool _ | .dec _ _, .int _ | .dec _ _, .str _
  | .dec _ _, .arr _ | .dec _ _, .obj _ | .dec _ _, .unreadable
  | .str _, .null | .str _, .bool _ | .str _, .int _ | .str _, .dec _ _ | .str _, .arr _
  | .str _, .obj _ | .str _, .unreadable
  | .arr _, .null | .arr _, .bool _ | .arr _, .int _ | .arr _, .dec _ _ | .arr _, .str _
  | .arr _, .obj _ | .arr _, .unreadable
  | .obj _, .null | .obj _, .bool _ | .obj _, .int _ | .obj _, .dec _ _ | .obj _, .str _
  | .obj _, .arr _ | .obj _, .unreadable
  | .unreadable, .null | .unreadable, .bool _ | .unreadable, .int _ | .unreadable, .dec _ _
  | .unreadable, .str _ | .unreadable, .arr _ | .unreadable, .obj _ => .isFalse nofun

/-- Decides whether two lists of values are the same. -/
def itemsSameness : (items others : List Json) → Decidable (items = others)
  | [], [] => .isTrue rfl
  | [], _ :: _ | _ :: _, [] => .isFalse nofun
  | item :: rest, other :: others =>
    have := sameness item other
    have := itemsSameness rest others
    decidable_of_iff (item = other ∧ rest = others) (by simp)

/-- Decides whether two lists of named values are the same. -/
def membersSameness : (fields others : List (String × Json)) → Decidable (fields = others)
  | [], [] => .isTrue rfl
  | [], _ :: _ | _ :: _, [] => .isFalse nofun
  | (name, value) :: rest, (otherName, other) :: others =>
    have := sameness value other
    have := membersSameness rest others
    decidable_of_iff ((name = otherName ∧ value = other) ∧ rest = others) (by simp)

end

instance : DecidableEq Json :=
  sameness

end Json

end NodeGate
