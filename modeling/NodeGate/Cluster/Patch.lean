import NodeGate.Resource.GateConfig
import NodeGate.Resource.Node
import NodeGate.Resource.Pod

/-!
# Patches

The changes that the controller makes to objects of the cluster, each written as
a merge patch. A merge patch replaces lists as a whole, so a patch of a list is
built from the cached object and carries its version; the API server answers a
conflict when the object has changed since.

The builders of pod and node patches give `none` when the object already is as
the patch would make it.
-/

namespace NodeGate

open Json

/-- The member that pins a patch to a version of its object. -/
def versionMember (resourceVersion : Option String) : List (String × Json) :=
  present "resourceVersion" (resourceVersion.map .str)

/-- A change of the labels of a machine; a label without a value is removed. -/
structure VmiPatch where
  resourceVersion : Option String
  labels : Entries (Option String)
deriving DecidableEq

namespace VmiPatch

/-- The merge patch that makes the change. -/
def toJson (patch : VmiPatch) : Json :=
  .obj [("metadata", .obj <|
    ("labels", .obj (patch.labels.map fun label => (label.1, strOrNull label.2))) ::
      versionMember patch.resourceVersion)]

/-- Marks a pool machine as claimed by the pod with that key. -/
def claim (resourceVersion : Option String) (key : String) : VmiPatch where
  resourceVersion := resourceVersion
  labels := [(claimantLabel, some key), (poolStateLabel, some PoolState.claimed.label)]

/-- Puts a claimed machine back into the pool. -/
def giveBack (resourceVersion : Option String) : VmiPatch where
  resourceVersion := resourceVersion
  labels := [(claimantLabel, none), (poolStateLabel, some PoolState.available.label)]

/-- Makes a running pool machine available. -/
def promote (resourceVersion : Option String) : VmiPatch where
  resourceVersion := resourceVersion
  labels := [(poolStateLabel, some PoolState.available.label)]

end VmiPatch

/-- A change of a pod. -/
inductive PodChange where
  /-- The scheduling gates become the named ones. -/
  | gates (names : List String)
  /-- The node of that name becomes the selected one. -/
  | host (name : String)
  /-- The finalizers become the named ones. -/
  | finalizers (names : List String)
deriving DecidableEq

/-- A change of a pod at a version of it. -/
structure PodPatch where
  resourceVersion : Option String
  change : PodChange
deriving DecidableEq

namespace PodPatch

/-- The merge patch that makes the change. -/
def toJson (patch : PodPatch) : Json :=
  let version := versionMember patch.resourceVersion
  match patch.change with
  | .gates names =>
    .obj [("metadata", .obj version),
      ("spec", .obj [("schedulingGates", .arr (names.map PodSpec.gateToJson))])]
  | .host name =>
    .obj [("metadata", .obj version),
      ("spec", .obj [("nodeSelector", .obj [(hostLabel, .str name)])])]
  | .finalizers names => .obj [("metadata", .obj (("finalizers", strings names) :: version))]

/-- Drops our gate and keeps the others in order. -/
def withoutGate? (pod : Pod) : Option PodPatch :=
  if pod.isGated then
    some ⟨pod.metadata.resourceVersion, .gates (pod.gates.filter (· ≠ gateName))⟩
  else none

/-- Selects the node of that name. -/
def selectHost? (pod : Pod) (nodeName : String) : Option PodPatch :=
  if pod.selectedHost? = some nodeName then none
  else some ⟨pod.metadata.resourceVersion, .host nodeName⟩

/-- Drops our finalizer and keeps the others in order. -/
def withoutFinalizer? (pod : Pod) : Option PodPatch :=
  if pod.hasFinalizer then
    some ⟨pod.metadata.resourceVersion,
      .finalizers (pod.finalizers.filter (· ≠ finalizerName))⟩
  else none

variable {pod : Pod} {patch : PodPatch} {nodeName : String}

theorem withoutGate?_eq_some_iff : withoutGate? pod = some patch ↔ pod.isGated = true ∧
    patch = ⟨pod.metadata.resourceVersion, .gates (pod.gates.filter (· ≠ gateName))⟩ :=
  Option.ite_none_right_eq_some.trans (and_congr_right' (Option.some_inj.trans eq_comm))

theorem selectHost?_eq_some_iff : selectHost? pod nodeName = some patch ↔
    pod.selectedHost? ≠ some nodeName ∧
      patch = ⟨pod.metadata.resourceVersion, .host nodeName⟩ :=
  Option.ite_none_left_eq_some.trans (and_congr_right' (Option.some_inj.trans eq_comm))

theorem withoutFinalizer?_eq_some_iff : withoutFinalizer? pod = some patch ↔
    pod.hasFinalizer = true ∧ patch = ⟨pod.metadata.resourceVersion,
      .finalizers (pod.finalizers.filter (· ≠ finalizerName))⟩ :=
  Option.ite_none_right_eq_some.trans (and_congr_right' (Option.some_inj.trans eq_comm))

end PodPatch

/-- A change of the taints of a node at a version of it. -/
structure NodePatch where
  resourceVersion : Option String
  taints : List Taint
deriving DecidableEq

namespace NodePatch

/-- The merge patch that makes the change. -/
def toJson (patch : NodePatch) : Json :=
  .obj [("metadata", .obj (versionMember patch.resourceVersion)),
    ("spec", .obj [("taints", .arr (patch.taints.map Taint.toJson))])]

/-- The taint that reserves the node of a claimed machine. -/
def claimedTaint (key : String) : Taint where
  key := key
  value := some reservationValue
  effect := noSchedule

/-- Adds the taint of a claimed machine, behind the others. -/
def withTaint? (node : Node) (key : String) : Option NodePatch :=
  if node.hasTaint key then none
  else some ⟨node.metadata.resourceVersion, node.taintList ++ [claimedTaint key]⟩

/-- Removes every taint with that key and keeps the others in order. -/
def withoutTaint? (node : Node) (key : String) : Option NodePatch :=
  if node.hasTaint key then
    some ⟨node.metadata.resourceVersion, node.taintList.filter (·.key ≠ key)⟩
  else none

end NodePatch

/-- A change of the pool counts in the status of the configuration. -/
structure StatusPatch where
  status : PoolStatus
deriving DecidableEq

/-- The merge patch that makes the change. -/
def StatusPatch.toJson (patch : StatusPatch) : Json :=
  .obj [("status", patch.status.toJson)]

end NodeGate
