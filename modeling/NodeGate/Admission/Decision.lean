import NodeGate.Json.Pointer
import NodeGate.Resource.Pod

/-!
# Admission decisions

A new pod that asks for isolation is patched so that it waits for a node of its
own: it gets our finalizer, our scheduling gate, a toleration of its node's
taint and a selector of its node by hostname. What the pod already carries is
left alone, so a pod that was patched needs no further patch. Afterwards only
the controller's service account may take the gate off.
-/

namespace NodeGate.Admission

open Json

/-- Where the controller runs, and the taint key of its nodes. -/
structure Policy where
  controllerNamespace : String := controlNamespace
  taintKey : String := standardTaintKey
deriving DecidableEq, Repr

/-- Why no decision on a request is possible. -/
inductive AdmissionFault where
  /-- An object is not what its kind says. -/
  | undecodable
  /-- The request is about another kind of object. -/
  | unsupportedKind (kind : String)
  /-- The request lacks a part. -/
  | missing (part : String)
  /-- A pod that asks for isolation has no name. -/
  | unnamedPod
deriving DecidableEq, Repr

/-- The wording of an admission fault. -/
def AdmissionFault.message : AdmissionFault → String
  | .undecodable => "failed to decode admission object:"
  | .unsupportedKind kind => "unsupported resource kind: " ++ kind
  | .missing part => "admission request has no " ++ part
  | .unnamedPod => "marooned pods need an explicit metadata.name"

/-- An operation of a JSON patch that adds a value at a path. -/
structure AddOperation where
  path : String
  value : Json

/-- The operation as a member of a JSON patch. -/
def AddOperation.toJson (operation : AddOperation) : Json :=
  .obj [("op", .str "add"), ("path", .str operation.path), ("value", operation.value)]

/-- The document after the operation; none when what should hold the place is not
there. -/
def AddOperation.perform? (operation : AddOperation) (document : Json) : Option Json :=
  Json.add? operation.path operation.value document

/-- The document after operations in turn. -/
def AddOperation.performAll? : List AddOperation → Json → Option Json
  | [], document => some document
  | operation :: rest, document => (operation.perform? document).bind (performAll? rest)

/-- What is answered to a request. -/
inductive Decision where
  | allow (message : String)
  | patch (message : String) (operations : List AddOperation)
  | deny (code : Nat) (message : String)

/-- The toleration of the taint with that key, whatever its value. -/
def tolerationOf (taintKey : String) : Toleration where
  key := some taintKey
  operator := some "Exists"
  effect := some noSchedule

/-- Adds our finalizer behind the others. -/
def finalizerOperations (pod : Pod) : List AddOperation :=
  if pod.hasFinalizer then []
  else [⟨"/metadata/finalizers", strings (pod.finalizers ++ [finalizerName])⟩]

/-- Adds our gate behind the others. -/
def gateOperations (pod : Pod) : List AddOperation :=
  if pod.isGated then []
  else
    [⟨"/spec/schedulingGates", .arr ((pod.gates ++ [gateName]).map PodSpec.gateToJson)⟩]

/-- Adds a toleration of the taint unless one with its key is there. -/
def tolerationOperations (pod : Pod) (taintKey : String) : List AddOperation :=
  match pod.spec.bind PodSpec.tolerations with
  | some tolerations =>
    if tolerations.any (·.key == some taintKey) then []
    else [⟨"/spec/tolerations/-", (tolerationOf taintKey).toJson⟩]
  | none => [⟨"/spec/tolerations", .arr [(tolerationOf taintKey).toJson]⟩]

/-- Selects the node named like the pod and keeps the other selectors. -/
def selectorOperations (pod : Pod) (name : String) : List AddOperation :=
  if pod.selectedHost? = some name then []
  else
    let selector := (pod.spec.bind PodSpec.nodeSelector).getD []
    [⟨"/spec/nodeSelector", textEntries (selector.insert hostLabel name)⟩]

/-- The operations that make a new pod wait for its node; `none` for a pod that
does not ask for isolation. -/
def newPodOperations (policy : Policy) (pod : Pod) :
    Except AdmissionFault (Option (List AddOperation)) :=
  if pod.isIsolated = false then .ok none
  else
    match pod.metadata.name with
    | none => .error .unnamedPod
    | some name =>
      if name.isEmpty then .error .unnamedPod
      else
        .ok (some (finalizerOperations pod ++ gateOperations pod ++
          tolerationOperations pod (reservationKey name policy.taintKey) ++
          selectorOperations pod name))

/-- The decision on a new pod. -/
def decideNew (policy : Policy) (pod : Pod) : Except AdmissionFault Decision :=
  match newPodOperations policy pod with
  | .error fault => .error fault
  | .ok none => .ok (.allow "Pod does not request marooning")
  | .ok (some []) => .ok (.allow "Pod has successfully gated")
  | .ok (some (operation :: rest)) =>
    .ok (.patch "Pod has successfully gated" (operation :: rest))

/-- The decision on a changed pod: only the controller may take our gate off. -/
def decideChange (policy : Policy) (old new : Pod) (username : String) : Decision :=
  if old.isGated = false ∨ new.isGated then
    .allow "Pod update did not remove MaroonedPodsGate"
  else if username = controllerUser policy.controllerNamespace then
    .allow "MaroonedPods controller has permission to remove gate from pods"
  else
    .deny 403
      "Only MaroonedPods controller has permission to remove MaroonedPodsGate gate from pods"

end NodeGate.Admission
