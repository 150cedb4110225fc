import NodeGate.Json.Decode

/-!
# Object references

The object that an event is about.
-/

namespace NodeGate

/-- A reference to an object of the cluster. -/
structure ObjectReference where
  apiVersion : Option String := none
  kind : Option String := none
  name : Option String := none
  /-- The namespace. -/
  space : Option String := none
  uid : Option String := none
  resourceVersion : Option String := none
  fieldPath : Option String := none
deriving DecidableEq

namespace ObjectReference

open Json

/-- Decodes a reference. -/
def decode (json : Json) : Option ObjectReference := do
  let fields ← asFields json
  some {
    apiVersion := ← optional "apiVersion" asText fields
    kind := ← optional "kind" asText fields
    name := ← optional "name" asText fields
    space := ← optional "namespace" asText fields
    uid := ← optional "uid" asText fields
    resourceVersion := ← optional "resourceVersion" asText fields
    fieldPath := ← optional "fieldPath" asText fields }

/-- The fields that are set. -/
def toJson (reference : ObjectReference) : Json :=
  .obj <|
    present "apiVersion" (reference.apiVersion.map .str) ++
    present "fieldPath" (reference.fieldPath.map .str) ++
    present "kind" (reference.kind.map .str) ++
    present "name" (reference.name.map .str) ++
    present "namespace" (reference.space.map .str) ++
    present "resourceVersion" (reference.resourceVersion.map .str) ++
    present "uid" (reference.uid.map .str)

/-- The object itself, whatever its version and part. -/
def identity (reference : ObjectReference) : ObjectReference :=
  { reference with resourceVersion := none, fieldPath := none }

end ObjectReference

end NodeGate
