import NodeGate.Resource.ObjectReference

/-!
# Events

What the controller tells people about a pod, with the reasons and actions it
uses.
-/

namespace NodeGate

/-- A remark on an object of the cluster. -/
structure Event where
  object : ObjectReference
  warning : Bool
  reason : String
  action : String
  note : Option String
deriving DecidableEq

/-- The kinds of remarks that the controller makes. -/
inductive Remark where
  | machineCreated
  | machineCreationFailed
  | waitingForMachine
  | waitingForNode
  | poolMachineClaimed
  | nodeReady
  | machineDeleted
  | machineReturned
  | invalidPod
deriving DecidableEq, Repr

namespace Remark

/-- The reason that a remark gives. -/
def reason : Remark → String
  | .machineCreated => "VMICreated"
  | .machineCreationFailed => "VMICreationFailed"
  | .waitingForMachine => "WaitingForVMI"
  | .waitingForNode => "WaitingForNode"
  | .poolMachineClaimed => "PoolVMIClaimed"
  | .nodeReady => "NodeReady"
  | .machineDeleted => "VMIDeleted"
  | .machineReturned => "VMIReturnedToPool"
  | .invalidPod => "InvalidPod"

/-- The action that a remark belongs to. -/
def action : Remark → String
  | .machineCreated | .machineCreationFailed | .waitingForMachine | .waitingForNode
  | .poolMachineClaimed => "Provision"
  | .nodeReady => "Release"
  | .machineDeleted | .machineReturned => "Cleanup"
  | .invalidPod => "Validate"

/-- Whether a remark is a warning. -/
def isWarning : Remark → Bool
  | .machineCreationFailed | .invalidPod => true
  | _ => false

/-- The event that makes a remark on an object. -/
def event (remark : Remark) (object : ObjectReference) (note : String) : Event where
  object := object
  warning := remark.isWarning
  reason := remark.reason
  action := remark.action
  note := some note

end Remark

end NodeGate
