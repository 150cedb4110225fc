import NodeGate.Json.Basic

/-!
# Decoding JSON into typed values

A decoder gives a typed value or `none`. Decoders work on documents as they are
written, in which a member may be repeated, as well as on settled values. The
combinators for members differ in what a missing member and an explicit `null`
mean: `optional` takes both for absence, `orEmpty` takes both for a default,
`orDefault` supplies a default for a missing member only, and `required` demands
the member. Of a repeated member every value must decode, and the last counts.

Cluster objects are decoded from JSON objects alone. A record of this library
may also be given by position, as the array of its fields in declaration order;
`record?` covers both forms, and refuses a repeated field. Members that are not
asked for are passed over, whether they can be read or not.
-/

namespace NodeGate.Json

variable {α : Type}

/-- The members of a JSON object in the order in which they are written. -/
abbrev Members := List (String × Json)

/-- A decoder of texts. -/
def asText : Json → Option String
  | .str text => some text
  | _ => none

/-- A decoder of truth values. -/
def asBool : Json → Option Bool
  | .bool value => some value
  | _ => none

/-- A decoder of the natural numbers up to `limit`. -/
def asNat (limit : Nat) : Json → Option Nat
  | .int (.ofNat value) => if value ≤ limit then some value else none
  | _ => none

/-- A decoder of the whole numbers between `low` and `high`. -/
def asInt (low high : Int) : Json → Option Int
  | .int value => if low ≤ value ∧ value ≤ high then some value else none
  | _ => none

/-- The members of a JSON object. -/
def asFields : Json → Option Members
  | .obj fields => some fields
  | _ => none

/-- Decodes every value of a list. -/
def decodeAll (decode : Json → Option α) : List Json → Option (List α)
  | [] => some []
  | item :: rest => do
    let first ← decode item
    let others ← decodeAll decode rest
    some (first :: others)

/-- A decoder of arrays. -/
def asList (decode : Json → Option α) : Json → Option (List α)
  | .arr items => decodeAll decode items
  | _ => none

/-- Decodes the value of every member. -/
def decodeMembers (decode : Json → Option α) : Members → Option (List (String × α))
  | [] => some []
  | (name, item) :: rest => do
    let first ← decode item
    let others ← decodeMembers decode rest
    some ((name, first) :: others)

/-- A decoder of objects used as maps. -/
def asEntries (decode : Json → Option α) : Json → Option (Entries α)
  | .obj fields => (decodeMembers decode fields).map Entries.ofPairs
  | _ => none

/-- A decoder of lists of texts. -/
def asTexts : Json → Option (List String) :=
  asList asText

/-- A decoder of maps to texts. -/
def asTextEntries : Json → Option (Entries String) :=
  asEntries asText

/-- The values of the members of that name, in order. -/
def valuesOf (name : String) (fields : Members) : List Json :=
  fields.filterMap fun field => if field.1 = name then some field.2 else none

/-- Whether no member of these names is repeated. -/
def isUnrepeated (names : List String) (fields : Members) : Bool :=
  names.all fun name => (valuesOf name fields).length ≤ 1

/-- The members of an object that repeats none of the named ones, or those of an
array that lists the named ones by position and leaves out some of the last. -/
def record? (names : List String) : Json → Option Members
  | .obj fields => if isUnrepeated names fields then some fields else none
  | .arr items => if items.length ≤ names.length then some (names.zip items) else none
  | _ => none

/-- The members of an object that repeats none of the named ones and whose other
members can be read. -/
def sortedOut? (names : List String) (json : Json) : Option Members := do
  let fields ← asFields json
  if isUnrepeated names fields &&
      fields.all fun field => names.contains field.1 || field.2.isReadable then
    some fields
  else none

/-- Decodes every value; the last counts, or what there is without one. -/
def lastOf (decode : Json → Option α) (found : α) : List Json → Option α
  | [] => some found
  | value :: rest => do
    let found ← decode value
    lastOf decode found rest

@[simp]
theorem lastOf_singleton (decode : Json → Option α) (found : α) (value : Json) :
    lastOf decode found [value] = decode value := by
  cases h : decode value <;> simp [lastOf, h]

/-- A member that must be there. -/
def required (name : String) (decode : Json → Option α) (fields : Members) : Option α :=
  match valuesOf name fields with
  | [] => none
  | value :: rest => (decode value).bind fun found => lastOf decode found rest

/-- A decoder for which `null` means the default. -/
def orNull (default : α) (decode : Json → Option α) : Json → Option α
  | .null => some default
  | value => decode value

/-- A member for which absence and `null` mean no value. -/
def optional (name : String) (decode : Json → Option α) (fields : Members) :
    Option (Option α) :=
  lastOf (orNull none fun value => (decode value).map some) none (valuesOf name fields)

/-- A member for which absence and `null` mean the default. -/
def orEmpty (name : String) (default : α) (decode : Json → Option α) (fields : Members) :
    Option α :=
  lastOf (orNull default decode) default (valuesOf name fields)

/-- A member for which absence means the default, but `null` does not. -/
def orDefault (name : String) (default : α) (decode : Json → Option α) (fields : Members) :
    Option α :=
  lastOf decode default (valuesOf name fields)

/-- A member that, if there is one, must be exactly the given text. -/
def fixed (name text : String) (fields : Members) : Option Unit :=
  lastOf (fun value => (asText value).bind fun found => if found = text then some () else none)
    () (valuesOf name fields)

/-- The name of an enumeration value: a text, or an object with one member of
that name whose value is `null`. -/
def variantName? : Json → Option String
  | .str name => some name
  | .obj [(name, .null)] => some name
  | _ => none

/-- The name of an enumeration value in a document that was put aside before its
kind was known; there an object without members may stand for `null`. -/
def asideVariantName? : Json → Option String
  | .obj [(name, .obj [])] => some name
  | json => variantName? json

end NodeGate.Json
