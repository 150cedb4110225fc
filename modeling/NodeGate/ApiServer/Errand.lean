import NodeGate.ApiServer.Exchange
import NodeGate.Cluster.Program
import NodeGate.Resource.GateConfigDefinition

/-!
# Errands

Calls of the cluster as they go to the API server: what is requested and what
the reply amounts to. A machine is created where its metadata says, a deletion
is answered by the deleted object or by a status document, and an object that
was patched has to come back in readable form.
-/

namespace NodeGate.ApiServer

open Json

/-- A call with its patch written out. -/
inductive Errand where
  | createMachine (vmi : Vmi)
  | readMachine (space name : String)
  | changeMachine (space name : String) (patch : Json)
  | deleteMachine (space name : String) (resourceVersion : Option String)
  | changePod (space name : String) (patch : Json)
  | changeNode (name : String) (patch : Json)
  | reportCounts (name : String) (patch : Json)

/-- The errand that a call is. -/
def Errand.ofCall : Call → Errand
  | .createMachine vmi => .createMachine vmi
  | .readMachine space name => .readMachine space name
  | .changeMachine space name patch => .changeMachine space name patch.toJson
  | .deleteMachine space name resourceVersion => .deleteMachine space name resourceVersion
  | .changePod space name patch => .changePod space name patch.toJson
  | .changeNode name patch => .changeNode name patch.toJson
  | .reportCounts name patch => .reportCounts name patch.toJson

/-- Where the machines are. -/
def vmiGroup : String := "/apis/kubevirt.io/v1"

/-- Where pods and nodes are. -/
def coreGroup : String := "/api/v1"

/-- Where the configurations are. -/
def configCollection : String :=
  "/apis/" ++ GateConfigDefinition.group ++ "/" ++ GateConfigDefinition.version ++ "/" ++
    GateConfigDefinition.plural

/-- The collection of the machines of a namespace. -/
def vmiCollection (space : String) : String :=
  vmiGroup ++ "/namespaces/" ++ space ++ "/virtualmachineinstances"

/-- The address of a machine. -/
def vmiAddress (space name : String) : Except Fault String :=
  return vmiCollection space ++ "/" ++ (← namePart name)

/-- The address of a pod. -/
def podAddress (space name : String) : Except Fault String :=
  return coreGroup ++ "/namespaces/" ++ space ++ "/pods/" ++ (← namePart name)

/-- The address of a node. -/
def nodeAddress (name : String) : Except Fault String :=
  return coreGroup ++ "/nodes/" ++ (← namePart name)

/-- The address of the status of a configuration. -/
def statusAddress (name : String) : Except Fault String :=
  return configCollection ++ "/" ++ (← namePart name) ++ "/status"

/-- The conditions of a deletion. -/
def deletionConditions (resourceVersion : Option String) : Json :=
  .obj <| present "preconditions" <|
    resourceVersion.map fun version => .obj [("resourceVersion", .str version)]

/-- Whether a document has the form of a cause in a status document. -/
def isStatusCause (json : Json) : Bool :=
  (do
    let fields ← record? ["reason", "message", "field"] json
    let _ ← orDefault "reason" "" asText fields
    let _ ← orDefault "message" "" asText fields
    orDefault "field" "" asText fields).isSome

/-- Whether a document has the form of the details in a status document. -/
def isStatusDetails (json : Json) : Bool :=
  (do
    let fields ←
      record? ["name", "group", "kind", "uid", "causes", "retryAfterSeconds"] json
    let _ ← orDefault "name" "" asText fields
    let _ ← orDefault "group" "" asText fields
    let _ ← orDefault "kind" "" asText fields
    let _ ← orDefault "uid" "" asText fields
    let causes ← orDefault "causes" [] (asList some) fields
    let _ ← orDefault "retryAfterSeconds" 0 (asNat maxWord) fields
    if causes.all isStatusCause then some () else none).isSome

/-- Whether a document has the form of a status document. -/
def isStatus (json : Json) : Bool :=
  (do
    let fields ← record? ["status", "code", "message", "reason", "details"] json
    let summary ← optional "status" variantName? fields
    let _ ← orDefault "code" 0 (asNat 65535) fields
    let _ ← orDefault "message" "" asText fields
    let _ ← orDefault "reason" "" asText fields
    let details ← optional "details" some fields
    if (summary.all fun name => name = "Success" || name = "Failure") &&
        details.all isStatusDetails then some () else none).isSome

/-- Reads the reply to a deletion, which has to be readable throughout: a status
document, or the deleted machine. -/
def deletion? (json : Json) : Option Unit :=
  match json.settled? with
  | none => none
  | some document =>
    if document.member? "kind" matches some (.str "Status") then
      if isStatus json then some () else none
    else (Vmi.decode json).map fun _ => ()

namespace Errand

/-- What is requested. -/
def request : Errand → Except Fault Request
  | .createMachine vmi =>
    match vmi.metadata.space with
    | none => .error (.invalidVmi "VMI has no namespace")
    | some space => Request.post (vmiCollection space) vmi.toJson
  | .readMachine space name => do Request.get (← vmiAddress space name)
  | .changeMachine space name patch => do Request.patch (← vmiAddress space name) patch
  | .deleteMachine space name resourceVersion => do
    Request.delete (← vmiAddress space name) (deletionConditions resourceVersion)
  | .changePod space name patch => do Request.patch (← podAddress space name) patch
  | .changeNode name patch => do Request.patch (← nodeAddress name) patch
  | .reportCounts name patch => do Request.patch (← statusAddress name) patch

/-- What the reply amounts to: the machine that it gives, if it gives one. -/
def outcome (errand : Errand) (reply : Reply) : Except Fault (Option Vmi) :=
  match errand with
  | .createMachine _ => (reply.read Vmi.decode).map some
  | .readMachine .. => reply.readIfFound Vmi.decode
  | .changeMachine .. => (reply.read Vmi.decode).map some
  | .deleteMachine .. => (reply.read deletion?).map fun _ => none
  | .changePod .. => (reply.read Pod.decode).map fun _ => none
  | .changeNode .. => (reply.read Node.decode).map fun _ => none
  | .reportCounts .. => (reply.read GateConfig.decode).map fun _ => none

end Errand

end NodeGate.ApiServer
