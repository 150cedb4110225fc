import NodeGate.Json.Basic

/-!
# Schemas

The form of the documents of a kind, as the API server is told it. A record
lists its fields; a field may be described, may be null, may have to be there
and may have a default.
-/

namespace NodeGate

/-- What holds of a field besides the form of its value. -/
structure FieldRole where
  description : Option String := none
  nullable : Bool := false
  required : Bool := false
  default : Option Nat := none
deriving DecidableEq, Repr

/-- The form of a value. -/
inductive Schema where
  /-- A whole number of a format. -/
  | whole (format : String)
  /-- A whole number of a format that is never negative. -/
  | natural (format : String)
  /-- A text, of a format if one is named. -/
  | text (format : Option String)
  | record (fields : List (String × FieldRole × Schema))

namespace Schema

open Json

/-- The names of the fields that have to be there. -/
def requiredNames (fields : List (String × FieldRole × Schema)) : List String :=
  (fields.filter fun field => field.2.1.required).map Prod.fst

mutual

/-- The members of the document of a schema. -/
def members : Schema → List (String × Json)
  | .whole format => [("type", .str "integer"), ("format", .str format)]
  | .natural format =>
    [("type", .str "integer"), ("format", .str format), ("minimum", .dec 0 0)]
  | .text format => ("type", .str "string") :: present "format" (format.map .str)
  | .record fields =>
    ("type", .str "object") :: ("properties", .obj (Entries.ofPairs (fieldMembers fields))) ::
      match requiredNames fields with
      | [] => []
      | names => [("required", strings names)]

/-- The documents of fields by their names. -/
def fieldMembers : List (String × FieldRole × Schema) → List (String × Json)
  | [] => []
  | field :: rest => fieldMember field :: fieldMembers rest

/-- The document of a field by its name. -/
def fieldMember : String × FieldRole × Schema → String × Json
  | (name, role, schema) =>
    (name, .obj (Entries.ofPairs (schema.members ++
      present "description" (role.description.map .str) ++
      present "default" (role.default.map nat) ++
      if role.nullable then [("nullable", .bool true)] else [])))

end

end Schema

end NodeGate
