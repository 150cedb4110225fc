import NodeGate.Proofs.Cluster.Registry

/-!
# What is taken and given back

A claim labels a machine, reserves its node with a taint and makes the pod select that
node; a return undoes the first two. The patches are read here by what an API server that
merges them makes of the objects: a claim and the return after it leave every label of the
machine and every taint of the node as they were.
-/

namespace NodeGate

open Json

/-- A claim that is followed by the return of the machine changes no label. -/
theorem VmiPatch.Makes.labels_restored {before claimed returned : Vmi} {key : String}
    {version laterVersion : Option String}
    (claims : (VmiPatch.claim version key).Makes before claimed)
    (returns : (VmiPatch.giveBack laterVersion).Makes claimed returned)
    (available : before.poolState? = some .available) (unclaimed : before.claimant? = none)
    (name : String) : returned.metadata.label? name = before.metadata.label? name := by
  by_cases isClaimant : name = claimantLabel
  · rw [isClaimant]
    exact returns.giveBack.2.trans unclaimed.symm
  · by_cases isState : name = poolStateLabel
    · rw [isState, Vmi.poolState?_eq_some_iff.mp available,
        Vmi.poolState?_eq_some_iff.mp returns.giveBack.1]
    · have unnamed : name ∉ [claimantLabel, poolStateLabel] := by simp [isClaimant, isState]
      rw [returns.label?_of_not_mem unnamed, claims.label?_of_not_mem unnamed]

namespace NodePatch

/-- The patch that puts the taint of a claimed machine on a node. -/
def reserving (node : Node) (key : String) : NodePatch :=
  ⟨node.metadata.resourceVersion, node.taintList ++ [claimedTaint key]⟩

/-- The patch that takes every taint with a key off a node. -/
def freeing (node : Node) (key : String) : NodePatch :=
  ⟨node.metadata.resourceVersion, node.taintList.filter (·.key ≠ key)⟩

variable {node : Node} {key : String}

theorem withTaint?_of_untainted (untainted : node.hasTaint key = false) :
    withTaint? node key = some (reserving node key) := by
  simp [withTaint?, untainted, reserving]

theorem withTaint?_of_tainted (tainted : node.hasTaint key = true) :
    withTaint? node key = none := by
  simp [withTaint?, tainted]

theorem withoutTaint?_of_tainted (tainted : node.hasTaint key = true) :
    withoutTaint? node key = some (freeing node key) := by
  simp [withoutTaint?, tainted, freeing]

end NodePatch

namespace Node

variable {before reserved freed : Node} {key : String}

/-- The node of a claimed machine has the taint that it was given. -/
theorem hasTaint_reserved
    (reserves : reserved.toJson.SameButVersion
      (merged before.toJson (NodePatch.reserving before key).toJson)) :
    reserved.hasTaint key = true := by
  rw [hasTaint_eq, writtenTaints_merged reserves]
  simp [NodePatch.reserving, NodePatch.claimedTaint]

/-- A taint that is put on and then taken off changes no other taint. -/
theorem taints_restored
    (reserves : reserved.toJson.SameButVersion
      (merged before.toJson (NodePatch.reserving before key).toJson))
    (frees : freed.toJson.SameButVersion
      (merged reserved.toJson (NodePatch.freeing reserved key).toJson))
    (untainted : before.hasTaint key = false) : freed.writtenTaints = before.writtenTaints := by
  have unkeyed : ∀ taint ∈ before.writtenTaints, Taint.isKeyed key taint = false := by
    rw [hasTaint_eq, List.any_eq_false] at untainted
    simpa using untainted
  have written : (NodePatch.freeing reserved key).taints.map Taint.toJson =
      reserved.writtenTaints.filter (!Taint.isKeyed key ·) := by
    simp only [NodePatch.freeing, writtenTaints, List.filter_map]
    congr 2
    funext taint
    rw [Bool.eq_iff_iff]
    simp
  rw [writtenTaints_merged frees, written, writtenTaints_merged reserves, NodePatch.reserving,
    List.map_append, List.filter_append, ← writtenTaints,
    List.filter_eq_self.mpr (by simpa using unkeyed)]
  simp [NodePatch.claimedTaint]

end Node

namespace Pod

/-- The pod is as it was but for the node that it selects now. -/
structure Selects (host : String) (before after : Pod) : Prop where
  akin : after.Akin before
  gates_eq : after.gates = before.gates
  finalizers_eq : after.finalizers = before.finalizers
  deletion_eq : after.outline.deletion = before.outline.deletion
  selector_eq : ∀ name, Entries.get? name after.selector =
    if name = hostLabel then some host else Entries.get? name before.selector

variable {before after : Pod} {host : String}

theorem Selects.of_selected (selected : before.selectedHost? = some host) :
    before.Selects host before where
  akin := .refl before
  gates_eq := rfl
  finalizers_eq := rfl
  deletion_eq := rfl
  selector_eq name := by
    split
    next same => rw [same, ← selectedHost?_eq, selected]
    next => rfl

theorem Selects.of_merged {version : Option String}
    (made : after.toJson.SameButVersion
      (merged before.toJson (PodPatch.toJson ⟨version, .host host⟩))) :
    Selects host before after := by
  have outline := PodPatch.outline_merged made
  simp only [PodChange.redraw, Outline.ext_iff] at outline
  obtain ⟨gates, finalizers, selector, deletion⟩ := outline
  refine ⟨PodPatch.akin_merged made, gates, finalizers, deletion, fun name => ?_⟩
  have selector : after.selector = before.selector.insert hostLabel host := selector
  rw [selector]
  split
  next same => rw [same, Entries.get?_insert_self]
  next other => exact Entries.get?_insert_of_ne other host before.selector

end Pod

theorem Vmi.key_of_sameObject {one other : Vmi} {held : ObjectKey}
    (same : one.metadata.SameObject other.metadata) (keyed : other.key = .ok held) :
    one.key = .ok held := by
  rwa [key_eq_ok_iff, same.space_eq, same.name_eq, ← key_eq_ok_iff]

namespace MergingServer

variable {server : MergingServer} {site : Site} {cache : Cache} {key held : ObjectKey}
  {origin trio : Trio} {vmi : Vmi}

open Release

/-- Claiming the machine labels it. -/
theorem leads_claim (server : MergingServer) (written : List Call)
    (shows : cache.Shows key held origin) (same : trio.Same origin)
    (keyed : trio.vmi.key = .ok held) :
    ∃ claimed later, server.Leads cache key held (claim trio.vmi key) ⟨trio, written⟩ (.ok ())
        ⟨{ trio with vmi := claimed }, later⟩ ∧
      claimed.toJson.SameButVersion (merged trio.vmi.toJson
        (VmiPatch.claim trio.vmi.metadata.resourceVersion key.text).toJson) := by
  obtain ⟨claimed, later, leads, claims⟩ := leads_changeMachine server written
    (.claim trio.vmi.metadata.resourceVersion key.text) shows same rfl
  refine ⟨claimed, later, ?_, claims⟩
  rw [claim]
  simp only [keyed]
  exact leads.call_bind (.quiet rfl)

/-- The node of the machine is tainted. -/
theorem leads_reserveNode (server : MergingServer) (site : Site) (written : List Call)
    (shows : cache.Shows key held origin) (same : trio.Same origin)
    (named : vmi.nodeName = trio.vmi.nodeName)
    (joined : site.cache.node? vmi.nodeName = some trio.node)
    (untainted : trio.node.hasTaint (reservationKey key.name site.defaults.taintKey) = false) :
    ∃ reserved later, server.Leads cache key held (reserveNode site key vmi) ⟨trio, written⟩
        (.ok ()) ⟨{ trio with node := reserved }, later⟩ ∧
      reserved.toJson.SameButVersion (merged trio.node.toJson (NodePatch.reserving trio.node
        (reservationKey key.name site.defaults.taintKey)).toJson) := by
  obtain ⟨reserved, later, leads, reserves⟩ := leads_changeNode server written
    (.reserving trio.node (reservationKey key.name site.defaults.taintKey)) shows same rfl
  refine ⟨reserved, later, ?_, reserves⟩
  rw [← named] at leads
  simp only [reserveNode, joined, NodePatch.withTaint?_of_untainted untainted]
  exact leads

/-- A node that is tainted stays as it is. -/
theorem leads_reserveNode_of_tainted {scene : Scene} {node : Node}
    (joined : site.cache.node? vmi.nodeName = some node)
    (tainted : node.hasTaint (reservationKey key.name site.defaults.taintKey) = true) :
    server.Leads cache key held (reserveNode site key vmi) scene (.ok ()) scene := by
  simp only [reserveNode, joined, NodePatch.withTaint?_of_tainted tainted]
  exact .quiet rfl

/-- A pod that selects the node already stays as it is. -/
theorem leads_selectNode_of_selected {scene : Scene} {pod : Pod}
    (selected : pod.selectedHost? = some vmi.nodeName) :
    server.Leads cache key held (selectNode key pod vmi) scene (.ok false) scene := by
  simp only [selectNode, PodPatch.selectHost?, selected, if_true]
  exact .quiet rfl

/-- The pod comes to select the node of the machine, if it does not select it already. -/
theorem leads_selectNode (server : MergingServer) (vmi : Vmi) (written : List Call)
    (shows : cache.Shows key held origin) (same : trio.Same origin)
    (specified : trio.pod.spec.isSome = true) :
    ∃ wrote selecting later,
      server.Leads cache key held (selectNode key trio.pod vmi) ⟨trio, written⟩ (.ok wrote)
        ⟨{ trio with pod := selecting }, later⟩ ∧
      trio.pod.Selects vmi.nodeName selecting := by
  by_cases selected : trio.pod.selectedHost? = some vmi.nodeName
  · exact ⟨false, trio.pod, written, leads_selectNode_of_selected selected,
      .of_selected selected⟩
  · obtain ⟨selecting, later, leads, made⟩ := leads_changePod server written
      ⟨trio.pod.metadata.resourceVersion, .host vmi.nodeName⟩ shows same specified rfl
    refine ⟨true, selecting, later, ?_, .of_merged made⟩
    simp only [selectNode, PodPatch.selectHost?, selected, if_false]
    exact leads.call_bind (.quiet rfl)

/-- The taint of the pod is taken off the node of the machine. -/
theorem leads_freeNode (server : MergingServer) (site : Site) (written : List Call)
    (shows : cache.Shows key held origin) (same : trio.Same origin)
    (slashless : afterLastSlash key.text = key.name)
    (claimant : trio.vmi.claimant? = some key.text)
    (joined : site.cache.node? trio.vmi.nodeName = some trio.node)
    (tainted : trio.node.hasTaint (reservationKey key.name site.defaults.taintKey) = true) :
    ∃ freed later, server.Leads cache key held (freeNode site trio.vmi.nodeName trio.vmi)
        ⟨trio, written⟩ (.ok ()) ⟨{ trio with node := freed }, later⟩ ∧
      freed.toJson.SameButVersion (merged trio.node.toJson (NodePatch.freeing trio.node
        (reservationKey key.name site.defaults.taintKey)).toJson) := by
  obtain ⟨freed, later, leads, frees⟩ := leads_changeNode server written
    (.freeing trio.node (reservationKey key.name site.defaults.taintKey)) shows same rfl
  refine ⟨freed, later, ?_, frees⟩
  rw [freeNode]
  simp only [claimant, joined, slashless, NodePatch.withoutTaint?_of_tainted tainted]
  exact leads.call_bind (.quiet rfl)

/-- Taking the machine back takes the taint off its node and labels it again. -/
theorem leads_giveBack (server : MergingServer) (site : Site) (written : List Call)
    (shows : cache.Shows key held origin) (same : trio.Same origin)
    (keyed : trio.vmi.key = .ok held) (slashless : afterLastSlash key.text = key.name)
    (claimant : trio.vmi.claimant? = some key.text)
    (joined : site.cache.node? trio.vmi.nodeName = some trio.node)
    (tainted : trio.node.hasTaint (reservationKey key.name site.defaults.taintKey) = true) :
    ∃ freed returned later, server.Leads cache key held (giveBack site trio.vmi) ⟨trio, written⟩
        (.ok ()) ⟨{ trio with node := freed, vmi := returned }, later⟩ ∧
      freed.toJson.SameButVersion (merged trio.node.toJson (NodePatch.freeing trio.node
        (reservationKey key.name site.defaults.taintKey)).toJson) ∧
      returned.toJson.SameButVersion (merged trio.vmi.toJson
        (VmiPatch.giveBack trio.vmi.metadata.resourceVersion).toJson) := by
  obtain ⟨freed, written, freeing, frees⟩ :=
    leads_freeNode server site written shows same slashless claimant joined tainted
  have sameFreed := same.withNode (Node.sameObject_merged frees)
  obtain ⟨returned, later, returning, returns⟩ := leads_changeMachine server written
    (.giveBack trio.vmi.metadata.resourceVersion) shows sameFreed rfl
  refine ⟨freed, returned, later, ?_, frees, returns⟩
  rw [Vmi.nodeName_of_key keyed] at freeing
  rw [giveBack]
  simp only [keyed]
  exact freeing.bind (returning.call_bind (.quiet rfl))

end MergingServer

end NodeGate
