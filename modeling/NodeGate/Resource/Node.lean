import NodeGate.Resource.ObjectMeta

/-!
# Nodes

A node by its metadata and its taints.
-/

namespace NodeGate

/-- A mark on a node that keeps pods away which do not tolerate it. -/
structure Taint where
  key : String
  value : Option String := none
  effect : String
  timeAdded : Option Instant := none
deriving DecidableEq

/-- A node. -/
structure Node where
  metadata : ObjectMeta := {}
  taints : Option (List Taint) := none
deriving DecidableEq

open Json

/-- Decodes a taint. -/
def Taint.decode (json : Json) : Option Taint := do
  let fields ← asFields json
  some {
    key := ← orEmpty "key" "" asText fields
    value := ← optional "value" asText fields
    effect := ← orEmpty "effect" "" asText fields
    timeAdded := ← optional "timeAdded" Instant.decode fields }

/-- The fields that are set, with the time in whole seconds. -/
def Taint.toJson (taint : Taint) : Json :=
  .obj <|
    ("effect", .str taint.effect) :: ("key", .str taint.key) ::
    (present "timeAdded" (taint.timeAdded.map (.str ·.textInSeconds)) ++
      present "value" (taint.value.map .str))

/-- Decodes the taints of a node's specification. -/
def Node.decodeTaints (json : Json) : Option (Option (List Taint)) := do
  optional "taints" (asList Taint.decode) (← asFields json)

/-- The version of the nodes' interface. -/
def Node.apiVersion : String := "v1"

/-- The kind of a node. -/
def Node.kind : String := "Node"

/-- Decodes a node; a version or a kind of another type of object is refused. -/
def Node.decode (json : Json) : Option Node := do
  let fields ← asFields json
  fixed "apiVersion" Node.apiVersion fields
  fixed "kind" Node.kind fields
  let taints ← optional "spec" Node.decodeTaints fields
  some {
    metadata := ← orEmpty "metadata" {} ObjectMeta.decode fields
    taints := taints.join }

/-- A node as an object of the cluster. -/
def Node.toJson (node : Node) : Json :=
  .obj <|
    [("apiVersion", .str Node.apiVersion), ("kind", .str Node.kind),
      ("metadata", node.metadata.toJson)] ++
    present "spec" (node.taints.map fun taints =>
      .obj [("taints", .arr (taints.map Taint.toJson))])

/-- The taints of a node, in order. -/
def Node.taintList (node : Node) : List Taint :=
  node.taints.getD []

/-- Whether the node has a taint with that key. -/
def Node.hasTaint (node : Node) (key : String) : Bool :=
  node.taintList.any (·.key == key)

end NodeGate
