import NodeGate.Cluster.Program
import NodeGate.Release.Site

/-!
# Claiming and giving back pool machines

A claim relabels an available machine with the key of the pod, pinned to the
version in the cache, so that two pods never win the same machine. Its node is
then tainted for the pod and the pod told to select that node. Giving a machine
back goes the other way: first the taint comes off, then the label changes.
-/

namespace NodeGate

open Program

/-- The key of a machine, or the fault of one without namespace or name. -/
def Vmi.key (vmi : Vmi) : Except Fault ObjectKey :=
  match vmi.metadata.space, vmi.metadata.name with
  | some space, some name => .ok ⟨space, name⟩
  | _, _ =>
    .error (.invalidVmi
      ("cached VMI " ++ vmi.metadata.uid.getD "<no uid>" ++ " has no namespace or name"))

namespace Release

/-- Labels a machine as claimed by the pod of a key. -/
def claim (vmi : Vmi) (key : ObjectKey) : Program (Except Fault Unit) :=
  match vmi.key with
  | .error fault => return .error fault
  | .ok held => do
    match ← call (.changeMachine held.space held.name
        (VmiPatch.claim vmi.metadata.resourceVersion key.text)) with
    | .ok _ => return .ok ()
    | .error fault => return .error fault

/-- Taints the node of a claimed machine for the pod. Without a node there is
nothing to taint yet; a later pass does it before the gate comes off. -/
def reserveNode (site : Site) (key : ObjectKey) (vmi : Vmi) : Program (Except Fault Unit) :=
  match site.cache.node? vmi.nodeName with
  | none => return .ok ()
  | some node =>
    match NodePatch.withTaint? node (reservationKey key.name site.defaults.taintKey) with
    | none => return .ok ()
    | some patch => call (.changeNode vmi.nodeName patch)

/-- Makes the pod select the node of its machine, and tells whether that took a
write. -/
def selectNode (key : ObjectKey) (pod : Pod) (vmi : Vmi) : Program (Except Fault Bool) :=
  match PodPatch.selectHost? pod vmi.nodeName with
  | none => return .ok false
  | some patch => do
    match ← call (.changePod key.space key.name patch) with
    | .ok () => return .ok true
    | .error fault => return .error fault

/-- Reserves the node of a claimed machine and makes the pod select it; tells
whether the pod was written, so that its cached copy is stale. -/
def pinToMachine (site : Site) (key : ObjectKey) (pod : Pod) (vmi : Vmi) :
    Program (Except Fault Bool) := do
  match ← reserveNode site key vmi with
  | .error fault => return .error fault
  | .ok () => selectNode key pod vmi

/-- Takes the taint of the claimant off the node of a claimed machine; a node
that is gone has no taint. -/
def freeNode (site : Site) (name : String) (vmi : Vmi) : Program (Except Fault Unit) :=
  match vmi.claimant?, site.cache.node? name with
  | some claimant, some node =>
    match NodePatch.withoutTaint? node
        (reservationKey (afterLastSlash claimant) site.defaults.taintKey) with
    | none => return .ok ()
    | some patch => do
      match ← call (.changeNode name patch) with
      | .ok () => return .ok ()
      | .error fault => return if fault.isNotFound then .ok () else .error fault
  | _, _ => return .ok ()

/-- Puts a claimed machine back into the pool. -/
def giveBack (site : Site) (vmi : Vmi) : Program (Except Fault Unit) :=
  match vmi.key with
  | .error fault => return .error fault
  | .ok held => do
    match ← freeNode site held.name vmi with
    | .error fault => return .error fault
    | .ok () =>
      match ← call (.changeMachine held.space held.name
          (VmiPatch.giveBack vmi.metadata.resourceVersion)) with
      | .error fault => return .error fault
      | .ok _ => do
        emit .returned
        return .ok ()

end Release

end NodeGate
