import NodeGate.Machine.Manifest
import NodeGate.Release.Departure

/-!
# The pass over a pod

Each pass looks at one cached pod and takes the next step towards taking its gate
off. Without a machine it claims one of the pool or creates one for the pod; with
a machine that does not run yet, or whose node is not there, it waits; with a
node it removes the gate. A deleting pod departs. The pass ends in a disposition
that tells how to queue the key again; a fault is logged and backs off.
-/

namespace NodeGate.Release

open Program

/-- Reports a pod that breaks a rule of isolated pods. -/
def refuse {α : Type} (key : ObjectKey) (pod : Pod) (reason : String) :
    Program (Except Fault α) := do
  remark .invalidPod pod.reference reason
  return .error (.invalidPod key.text reason)

/-- Takes our gate off a pod that has it. -/
def liftGate (key : ObjectKey) (pod : Pod) : Program (Except Fault Unit) :=
  match PodPatch.withoutGate? pod with
  | none => return .ok ()
  | some patch => call (.changePod key.space key.name patch)

/-- Takes the gate off once the machine runs and its node is there. -/
def openGate (site : Site) (key : ObjectKey) (pod : Pod) (vmi : Vmi) :
    Program (Except Fault Disposition) :=
  if vmi.isRunning = false then do
    remark .waitingForMachine pod.reference
      ("Waiting for VMI " ++ vmi.nodeName ++ " to start")
    return .ok .backOff
  else if (site.cache.node? vmi.nodeName).isNone then do
    remark .waitingForNode pod.reference
      ("Waiting for node " ++ vmi.nodeName ++ " to join the cluster")
    return .ok .backOff
  else do
    match ← liftGate key pod with
    | .error fault => return .error fault
    | .ok () => do
      remark .nodeReady pod.reference
        ("Node " ++ vmi.nodeName ++ " is ready, scheduling gate removed")
      return .ok .forget

/-- Creates a machine for the pod, sized by what it requests. -/
def createDedicated (site : Site) (key : ObjectKey) (pod : Pod) :
    Program (Except Fault Disposition) :=
  match MachineSize.ofPod site.defaults pod with
  | .error fault => refuse key pod fault.message
  | .ok size => do
    match ← call (.createMachine
        (Manifest.dedicated key.space key.name size site.defaults site.join)) with
    | .ok () => do
      emit (.created .dedicated)
      remark .machineCreated pod.reference
        ("Created VMI " ++ key.name ++ " with " ++ Text.decimalText size.cores ++
          " cores and " ++ Text.decimalText size.memoryMi ++ "Mi")
      return .ok .backOff
    | .error fault =>
      if fault.isConflict then return .ok .backOff
      else do
        remark .machineCreationFailed pod.reference
          ("Failed to create VMI " ++ key.name ++ ": " ++ fault.text)
        return .error fault

/-- Finds a machine for a pod that has none in the cache. The cache may trail our
own creation, so the API server is asked first. A lost claim is tried again in
the next pass; any other failed claim leads to a machine of the pod's own. -/
def obtainMachine (site : Site) (key : ObjectKey) (pod : Pod) :
    Program (Except Fault Disposition) := do
  match ← call (.readMachine key.space key.name) with
  | .error fault => return .error fault
  | .ok found =>
    match found.filter fun vmi => !vmi.isPooled with
    | some vmi => openGate site key pod vmi
    | none =>
      match site.cache.candidate? with
      | none => createDedicated site key pod
      | some candidate =>
        match ← claim candidate key with
        | .ok () =>
          match ← pinToMachine site key pod candidate with
          | .error fault => return .error fault
          | .ok _ => do
            remark .poolMachineClaimed pod.reference
              ("Claimed pool VMI " ++ candidate.nodeName)
            return .ok .immediate
        | .error fault =>
          if fault.isConflict then return .error fault
          else do
            logFault ("Failed to claim pool VMI for " ++ key.text ++
              ", creating a dedicated VMI") fault
            createDedicated site key pod

/-- The pass over a pod that carries our gate exactly once. -/
def serve (site : Site) (key : ObjectKey) (pod : Pod) :
    Program (Except Fault Disposition) :=
  match site.cache.machineOf? key with
  | none => obtainMachine site key pod
  | some vmi =>
    if vmi.isPooled then do
      match ← pinToMachine site key pod vmi with
      | .error fault => return .error fault
      | .ok true => return .ok .immediate
      | .ok false => openGate site key pod vmi
    else openGate site key pod vmi

/-- The pass over a cached pod. -/
def attend (site : Site) (key : ObjectKey) (pod : Pod) :
    Program (Except Fault Disposition) :=
  if pod.isDeleting then depart site key pod
  else if pod.gateCount = 0 then return .ok .forget
  else if pod.gateCount = 1 then serve site key pod
  else
    refuse key pod
      (Text.decimalText pod.gateCount ++ " MaroonedPodsGate scheduling gates")

/-- The pass for a work key, up to its first fault. -/
def attempt (site : Site) (text : String) : Program (Except Fault Disposition) :=
  match ObjectKey.ofText text with
  | .error fault => return .error fault
  | .ok key =>
    match site.cache.pod? key with
    | none => return .ok .forget
    | some pod => attend site key pod

/-- The pass for a work key. -/
def pass (site : Site) (text : String) : Program Disposition := do
  match ← attempt site text with
  | .ok disposition => return disposition
  | .error fault => do
    logFault ("Failed to reconcile pod " ++ text) fault
    return .backOff

end NodeGate.Release
