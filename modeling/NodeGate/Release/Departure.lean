import NodeGate.Release.Claiming
import NodeGate.Release.Disposition

/-!
# The departure of a pod

When a pod is deleted its machine is released: a claimed pool machine goes back
to the pool, and the machine named after the pod is deleted. Only then is the
finalizer dropped, so that the deletion can complete. A pod that vanished all
the same has its machine released as well as can be.
-/

namespace NodeGate.Release

open Program

/-- Gives back the pool machine that the pod claimed, and tells whether there was
one. -/
def giveBackClaimed (site : Site) (key : ObjectKey) (pod : Pod) :
    Program (Except Fault Bool) :=
  match site.cache.heldBy? key.text with
  | none => return .ok false
  | some vmi => do
    match ← giveBack site vmi with
    | .error fault => return .error fault
    | .ok () => do
      remark .machineReturned pod.reference
        ("Returned VMI " ++ vmi.nodeName ++ " to the warm pool")
      return .ok true

/-- Deletes the machine named after the pod; one that is gone needs no deleting. -/
def deleteDedicated (key : ObjectKey) (pod : Pod) : Program (Except Fault Unit) := do
  match ← call (.deleteMachine key.space key.name none) with
  | .ok () => do
    remark .machineDeleted pod.reference ("Deleted VMI " ++ key.name)
    return .ok ()
  | .error fault => return if fault.isNotFound then .ok () else .error fault

/-- Releases what serves a pod. A machine of the pool that happens to have the
pod's name is left alone. A pod that held a pool machine has one of its own only
if its creation outran the cache, so the API server is asked before deleting. -/
def releaseMachine (site : Site) (key : ObjectKey) (pod : Pod) :
    Program (Except Fault Unit) := do
  match ← giveBackClaimed site key pod with
  | .error fault => return .error fault
  | .ok returned =>
    match site.cache.vmi? key with
    | some vmi => if vmi.isPooled then return .ok () else deleteDedicated key pod
    | none =>
      if returned then
        match ← call (.readMachine key.space key.name) with
        | .error fault => return .error fault
        | .ok none => return .ok ()
        | .ok (some vmi) =>
          if vmi.isPooled then return .ok () else deleteDedicated key pod
      else deleteDedicated key pod

/-- Drops our finalizer; a pod that is gone has none. -/
def dropFinalizer (key : ObjectKey) (pod : Pod) : Program (Except Fault Unit) :=
  match PodPatch.withoutFinalizer? pod with
  | none => return .ok ()
  | some patch => do
    match ← call (.changePod key.space key.name patch) with
    | .ok () => return .ok ()
    | .error fault => return if fault.isNotFound then .ok () else .error fault

/-- The pass over a deleting pod. -/
def depart (site : Site) (key : ObjectKey) (pod : Pod) :
    Program (Except Fault Disposition) :=
  if pod.hasFinalizer = false then return .ok .forget
  else do
    match ← releaseMachine site key pod with
    | .error fault => return .error fault
    | .ok () =>
      match ← dropFinalizer key pod with
      | .error fault => return .error fault
      | .ok () => return .ok .forget

/-- Releases the machine of a pod that vanished; a fault is only logged. -/
def podVanished (site : Site) (pod : Pod) : Program Unit :=
  match pod.key? with
  | none => return ()
  | some text => do
    let outcome ← match ObjectKey.ofText text with
      | .error fault => pure (.error fault)
      | .ok key => releaseMachine site key pod
    match outcome with
    | .ok () => return ()
    | .error fault => logFault ("Failed to release VMI of deleted pod " ++ text) fault

end NodeGate.Release
