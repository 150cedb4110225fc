import NodeGate.Resource.Names
import NodeGate.Resource.ObjectMeta
import NodeGate.Resource.ObjectReference

/-!
# Pods

The part of a pod that decides its isolation: metadata, scheduling gates,
tolerations, node selector and the resource requests of its containers. The
predicates on gates and finalizers are shared by admission and the controller,
so that both agree on what an isolated pod looks like.

The decoders here read that part and pass over all other members. A document in which
one of those is of a wrong type is no pod to the API, so its own reader refuses more
documents than `Pod.decode` does. What is said of documents that are no pods is
therefore said of whatever reader there is.
-/

namespace NodeGate

/-- Permission for a pod to run on nodes with matching taints. -/
structure Toleration where
  key : Option String := none
  operator : Option String := none
  value : Option String := none
  effect : Option String := none
  tolerationSeconds : Option Int := none
deriving DecidableEq

/-- A container, by what it requests. -/
structure Container where
  name : String := ""
  requests : Option (Entries String) := none
deriving DecidableEq

/-- The specification of a pod. -/
structure PodSpec where
  containers : List Container := []
  /-- The names of the scheduling gates. -/
  gates : Option (List String) := none
  nodeSelector : Option (Entries String) := none
  tolerations : Option (List Toleration) := none
deriving DecidableEq

/-- A pod. -/
structure Pod where
  metadata : ObjectMeta := {}
  spec : Option PodSpec := none
deriving DecidableEq

open Json

/-- Decodes a toleration. -/
def Toleration.decode (json : Json) : Option Toleration := do
  let fields ← asFields json
  some {
    key := ← optional "key" asText fields
    operator := ← optional "operator" asText fields
    value := ← optional "value" asText fields
    effect := ← optional "effect" asText fields
    tolerationSeconds := ← optional "tolerationSeconds" ObjectMeta.asLong fields }

/-- The fields that are set. -/
def Toleration.toJson (toleration : Toleration) : Json :=
  .obj <|
    present "effect" (toleration.effect.map .str) ++
    present "key" (toleration.key.map .str) ++
    present "operator" (toleration.operator.map .str) ++
    present "tolerationSeconds" (toleration.tolerationSeconds.map .int) ++
    present "value" (toleration.value.map .str)

/-- A decoder of quantities: a text, or a whole number of 64 bits that stands for
its numeral. -/
def Container.asQuantity : Json → Option String
  | .str text => some text
  | .int value => some (Text.integerText value)
  | _ => none

/-- Decodes the requests of a container; its limits must be well-formed too. -/
def Container.decodeRequests (json : Json) : Option (Option (Entries String)) := do
  let fields ← asFields json
  let _ ← optional "limits" (asEntries Container.asQuantity) fields
  optional "requests" (asEntries Container.asQuantity) fields

/-- Decodes what is kept of a container. -/
def Container.decode (json : Json) : Option Container := do
  let fields ← asFields json
  let resources ← optional "resources" Container.decodeRequests fields
  some {
    name := ← orEmpty "name" "" asText fields
    requests := resources.join }

/-- The fields of a container that are set. -/
def Container.toJson (container : Container) : Json :=
  .obj <|
    ("name", .str container.name) ::
    present "resources" (container.requests.map fun requests =>
      .obj [("requests", textEntries requests)])

/-- Decodes the name of a scheduling gate. -/
def PodSpec.decodeGate (json : Json) : Option String := do
  orEmpty "name" "" asText (← asFields json)

/-- The form of a scheduling gate of that name. -/
def PodSpec.gateToJson (name : String) : Json :=
  .obj [("name", .str name)]

/-- Decodes what is kept of the specification of a pod. -/
def PodSpec.decode (json : Json) : Option PodSpec := do
  let fields ← asFields json
  let _ ← optional "initContainers" (asList Container.decode) fields
  some {
    containers := ← orEmpty "containers" [] (asList Container.decode) fields
    gates := ← optional "schedulingGates" (asList PodSpec.decodeGate) fields
    nodeSelector := ← optional "nodeSelector" asTextEntries fields
    tolerations := ← optional "tolerations" (asList Toleration.decode) fields }

/-- The fields of a specification that are set; containers are always written. -/
def PodSpec.toJson (spec : PodSpec) : Json :=
  .obj <|
    ("containers", .arr (spec.containers.map Container.toJson)) ::
    (present "nodeSelector" (spec.nodeSelector.map textEntries) ++
      present "schedulingGates" (spec.gates.map fun names =>
        .arr (names.map PodSpec.gateToJson)) ++
      present "tolerations" (spec.tolerations.map fun tolerations =>
        .arr (tolerations.map Toleration.toJson)))

namespace Pod

/-- The version of the pods' interface. -/
def apiVersion : String := "v1"

/-- The kind of a pod. -/
def kind : String := "Pod"

/-- Decodes what is kept of a pod; a version or a kind of another type of object is
refused. -/
def decode (json : Json) : Option Pod := do
  let fields ← asFields json
  fixed "apiVersion" apiVersion fields
  fixed "kind" kind fields
  some {
    metadata := ← orEmpty "metadata" {} ObjectMeta.decode fields
    spec := ← optional "spec" PodSpec.decode fields }

/-- A pod as an object of the cluster. -/
def toJson (pod : Pod) : Json :=
  .obj <|
    [("apiVersion", .str apiVersion), ("kind", .str kind), ("metadata", pod.metadata.toJson)] ++
    present "spec" (pod.spec.map PodSpec.toJson)

/-- The work key of a pod that has both a namespace and a name. -/
def key? (pod : Pod) : Option String :=
  match pod.metadata.space, pod.metadata.name with
  | some space, some name => some (workKey space name)
  | _, _ => none

/-- Whether the pod asks for a node of its own. -/
def isIsolated (pod : Pod) : Bool :=
  (pod.metadata.label? isolationLabel).isSome

/-- The names of the pod's scheduling gates, in order. -/
def gates (pod : Pod) : List String :=
  (pod.spec.bind PodSpec.gates).getD []

/-- The pod's finalizers, in order. -/
def finalizers (pod : Pod) : List String :=
  pod.metadata.finalizers.getD []

/-- How many of the pod's scheduling gates are ours. -/
def gateCount (pod : Pod) : Nat :=
  pod.gates.countP (· == gateName)

/-- Whether our gate is among the pod's scheduling gates. -/
def isGated (pod : Pod) : Bool :=
  0 < pod.gateCount

/-- Whether the pod carries our finalizer. -/
def hasFinalizer (pod : Pod) : Bool :=
  pod.finalizers.contains finalizerName

/-- Whether the pod's deletion was asked for. -/
def isDeleting (pod : Pod) : Bool :=
  pod.metadata.deletionTimestamp.isSome

/-- Whether the controller has work for the pod: it is gated, or deleting with
our finalizer still on. -/
def needsWork (pod : Pod) : Bool :=
  pod.isGated || (pod.isDeleting && pod.hasFinalizer)

/-- The node name that the pod selects by hostname. -/
def selectedHost? (pod : Pod) : Option String :=
  (pod.spec.bind PodSpec.nodeSelector).bind (Entries.get? hostLabel)

/-- The reference by which events name the pod. -/
def reference (pod : Pod) : ObjectReference where
  apiVersion := some apiVersion
  kind := some kind
  name := pod.metadata.name
  space := pod.metadata.space
  uid := pod.metadata.uid
  resourceVersion := pod.metadata.resourceVersion

end Pod

end NodeGate
