import NodeGate.Resource.Names
import NodeGate.Resource.ObjectMeta
import NodeGate.Resource.PoolState

/-!
# Virtual machine instances

The machines that become nodes, by the part of their specification that the
controller writes and the part of their status that it reads. Whether a machine
belongs to the pool, in which state it is there and which pod holds it is all
told by its labels.
-/

namespace NodeGate

/-- The processor of a machine. -/
structure Cpu where
  cores : Nat := 0
  sockets : Nat := 0
  threads : Nat := 0
deriving DecidableEq

/-- A disk of a machine; the target is its bus, if one is named. -/
structure Disk where
  name : String
  target : Option (Option String) := none
deriving DecidableEq

/-- A network interface of a machine. -/
structure Interface where
  name : String
  masquerade : Bool := false
deriving DecidableEq

/-- The devices of a machine. -/
structure Devices where
  disks : List Disk := []
  interfaces : List Interface := []
deriving DecidableEq

/-- The hardware of a machine: its processor, the memory visible to the guest
and the requests of the process that runs it, all as quantity texts. -/
structure Domain where
  cpu : Option Cpu := none
  devices : Devices := {}
  memory : Option (Option String) := none
  requests : Option (Entries String) := none
deriving DecidableEq

/-- A network of a machine. -/
structure Network where
  name : String
  podNetwork : Bool := false
deriving DecidableEq

/-- A volume of a machine: a container image, or user data in base 64. -/
structure Volume where
  name : String
  image : Option String := none
  userData : Option (Option String) := none
deriving DecidableEq

/-- The specification of a machine. -/
structure VmiSpec where
  domain : Domain := {}
  networks : List Network := []
  volumes : List Volume := []
deriving DecidableEq

/-- How far the life of a machine has come. -/
inductive Phase where
  | pending
  | scheduling
  | scheduled
  | running
  | succeeded
  | failed
  /-- Any other phase. -/
  | unknown
deriving DecidableEq, Repr

/-- The status of a machine. -/
structure VmiStatus where
  phase : Option Phase := none
  nodeName : Option String := none
deriving DecidableEq

/-- A virtual machine instance. -/
structure Vmi where
  metadata : ObjectMeta
  spec : VmiSpec
  status : Option VmiStatus := none
deriving DecidableEq

open Json

/-- The largest number of 32 bits. -/
def maxWord : Nat := Nat.pow 2 32 - 1

/-- The largest number of 64 bits. -/
def maxLong : Nat := Nat.pow 2 64 - 1

/-- Decodes a processor. -/
def Cpu.decode (json : Json) : Option Cpu := do
  let fields ← record? ["cores", "sockets", "threads"] json
  some {
    cores := ← orDefault "cores" 0 (asNat maxWord) fields
    sockets := ← orDefault "sockets" 0 (asNat maxWord) fields
    threads := ← orDefault "threads" 0 (asNat maxWord) fields }

/-- All fields of a processor. -/
def Cpu.toJson (cpu : Cpu) : Json :=
  .obj [("cores", .nat cpu.cores), ("sockets", .nat cpu.sockets), ("threads", .nat cpu.threads)]

/-- Decodes a record whose one field is an optional text. -/
def decodeOptionalText (name : String) (json : Json) : Option (Option String) := do
  optional name asText (← record? [name] json)

/-- The record whose one field is an optional text. -/
def optionalTextToJson (name : String) (text : Option String) : Json :=
  .obj (present name (text.map .str))

/-- Decodes a marker, a record without fields that tells by being there. -/
def decodeMarker (json : Json) : Option Unit :=
  (record? [] json).map fun _ => ()

/-- The member that a marker is written as. -/
def marker (name : String) (set : Bool) : List (String × Json) :=
  if set then [(name, .obj [])] else []

/-- Decodes a disk. -/
def Disk.decode (json : Json) : Option Disk := do
  let fields ← record? ["name", "disk"] json
  some {
    name := ← required "name" asText fields
    target := ← optional "disk" (decodeOptionalText "bus") fields }

/-- The fields of a disk that are set. -/
def Disk.toJson (disk : Disk) : Json :=
  .obj <| present "disk" (disk.target.map (optionalTextToJson "bus")) ++ [("name", .str disk.name)]

/-- Decodes a network interface. -/
def Interface.decode (json : Json) : Option Interface := do
  let fields ← record? ["name", "masquerade"] json
  let masquerade ← optional "masquerade" decodeMarker fields
  some {
    name := ← required "name" asText fields
    masquerade := masquerade.isSome }

/-- The fields of a network interface that are set. -/
def Interface.toJson (interface : Interface) : Json :=
  .obj <| marker "masquerade" interface.masquerade ++ [("name", .str interface.name)]

/-- The member that a list is written as, unless it is empty. -/
def presentList (name : String) (items : List Json) : List (String × Json) :=
  if items.isEmpty then [] else [(name, .arr items)]

/-- Decodes devices. -/
def Devices.decode (json : Json) : Option Devices := do
  let fields ← record? ["disks", "interfaces"] json
  some {
    disks := ← orDefault "disks" [] (asList Disk.decode) fields
    interfaces := ← orDefault "interfaces" [] (asList Interface.decode) fields }

/-- The lists of devices that are not empty. -/
def Devices.toJson (devices : Devices) : Json :=
  .obj <|
    presentList "disks" (devices.disks.map Disk.toJson) ++
    presentList "interfaces" (devices.interfaces.map Interface.toJson)

/-- Decodes the resource requests of a domain. -/
def Domain.decodeRequests (json : Json) : Option (Entries String) := do
  orDefault "requests" [] asTextEntries (← record? ["requests"] json)

/-- The resource requests of a domain, left out when there are none. -/
def Domain.requestsToJson (requests : Entries String) : Json :=
  .obj (if requests.isEmpty then [] else [("requests", textEntries requests)])

/-- Decodes a domain. -/
def Domain.decode (json : Json) : Option Domain := do
  let fields ← record? ["cpu", "memory", "resources", "devices"] json
  some {
    cpu := ← optional "cpu" Cpu.decode fields
    devices := ← orDefault "devices" {} Devices.decode fields
    memory := ← optional "memory" (decodeOptionalText "guest") fields
    requests := ← optional "resources" Domain.decodeRequests fields }

/-- The fields of a domain that are set; devices are always written. -/
def Domain.toJson (domain : Domain) : Json :=
  .obj <|
    present "cpu" (domain.cpu.map Cpu.toJson) ++
    ("devices", domain.devices.toJson) ::
    (present "memory" (domain.memory.map (optionalTextToJson "guest")) ++
      present "resources" (domain.requests.map Domain.requestsToJson))

/-- Decodes a network. -/
def Network.decode (json : Json) : Option Network := do
  let fields ← record? ["name", "pod"] json
  let podNetwork ← optional "pod" decodeMarker fields
  some {
    name := ← required "name" asText fields
    podNetwork := podNetwork.isSome }

/-- The fields of a network that are set. -/
def Network.toJson (network : Network) : Json :=
  .obj (("name", .str network.name) :: marker "pod" network.podNetwork)

/-- Decodes the image of a container disk. -/
def Volume.decodeImage (json : Json) : Option String := do
  required "image" asText (← record? ["image"] json)

/-- Decodes a volume. -/
def Volume.decode (json : Json) : Option Volume := do
  let fields ← record? ["name", "containerDisk", "cloudInitNoCloud"] json
  some {
    name := ← required "name" asText fields
    image := ← optional "containerDisk" Volume.decodeImage fields
    userData := ← optional "cloudInitNoCloud" (decodeOptionalText "userDataBase64") fields }

/-- The fields of a volume that are set. -/
def Volume.toJson (volume : Volume) : Json :=
  .obj <|
    present "cloudInitNoCloud" (volume.userData.map (optionalTextToJson "userDataBase64")) ++
    present "containerDisk" (volume.image.map fun image => .obj [("image", .str image)]) ++
    [("name", .str volume.name)]

/-- Decodes the specification of a machine. -/
def VmiSpec.decode (json : Json) : Option VmiSpec := do
  let fields ← record? ["domain", "networks", "volumes"] json
  some {
    domain := ← required "domain" Domain.decode fields
    networks := ← orDefault "networks" [] (asList Network.decode) fields
    volumes := ← orDefault "volumes" [] (asList Volume.decode) fields }

/-- The specification of a machine, without its empty lists. -/
def VmiSpec.toJson (spec : VmiSpec) : Json :=
  .obj <|
    ("domain", spec.domain.toJson) ::
    (presentList "networks" (spec.networks.map Network.toJson) ++
      presentList "volumes" (spec.volumes.map Volume.toJson))

namespace Phase

/-- The name of a phase. -/
def name : Phase → String
  | .pending => "Pending"
  | .scheduling => "Scheduling"
  | .scheduled => "Scheduled"
  | .running => "Running"
  | .succeeded => "Succeeded"
  | .failed => "Failed"
  | .unknown => "Unknown"

/-- The phase of that name; a name that is none means the unknown phase. -/
def ofName (text : String) : Phase :=
  if text = "Pending" then .pending
  else if text = "Scheduling" then .scheduling
  else if text = "Scheduled" then .scheduled
  else if text = "Running" then .running
  else if text = "Succeeded" then .succeeded
  else if text = "Failed" then .failed
  else .unknown

/-- Decodes a phase. -/
def decode (json : Json) : Option Phase :=
  json.variantName?.map ofName

/-- Decodes a phase in a document that was put aside. -/
def decodeAside (json : Json) : Option Phase :=
  json.asideVariantName?.map ofName

@[simp]
theorem ofName_name (phase : Phase) : ofName phase.name = phase := by
  cases phase <;> decide

end Phase

/-- Decodes the status of a machine, with a decoder of its phase. -/
def VmiStatus.decodeWith (phase : Json → Option Phase) (json : Json) : Option VmiStatus := do
  let fields ← record? ["phase", "nodeName"] json
  some {
    phase := ← optional "phase" phase fields
    nodeName := ← optional "nodeName" asText fields }

/-- Decodes the status of a machine. -/
def VmiStatus.decode : Json → Option VmiStatus :=
  VmiStatus.decodeWith Phase.decode

/-- The fields of a status that are set. -/
def VmiStatus.toJson (status : VmiStatus) : Json :=
  .obj <|
    present "nodeName" (status.nodeName.map .str) ++
    present "phase" (status.phase.map fun phase => .str phase.name)

/-- The members of an object that has metadata, a specification and an optional
status, none of them repeated; by position all three are listed. -/
def objectFields? : Json → Option Members
  | .obj fields =>
    if isUnrepeated ["metadata", "spec", "status"] fields then some fields else none
  | .arr [metadata, spec, status] =>
    some [("metadata", metadata), ("spec", spec), ("status", status)]
  | _ => none

namespace Vmi

/-- Decodes a machine, with a decoder of its phase. -/
def decodeWith (phase : Json → Option Phase) (json : Json) : Option Vmi := do
  let fields ← objectFields? json
  some {
    metadata := ← required "metadata" ObjectMeta.decode fields
    spec := ← required "spec" VmiSpec.decode fields
    status := ← optional "status" (VmiStatus.decodeWith phase) fields }

/-- Decodes a machine. -/
def decode : Json → Option Vmi :=
  decodeWith Phase.decode

/-- Decodes a machine from a document that was put aside before its kind was
known. -/
def decodeAside : Json → Option Vmi :=
  decodeWith Phase.decodeAside

/-- The version of the machines' interface. -/
def apiVersion : String := "kubevirt.io/v1"

/-- The kind of a machine. -/
def kind : String := "VirtualMachineInstance"

/-- A machine as an object of the cluster; without a status no member tells of
one. -/
def toJson (vmi : Vmi) : Json :=
  .obj <|
    [("apiVersion", .str apiVersion), ("kind", .str kind), ("metadata", vmi.metadata.toJson),
      ("spec", vmi.spec.toJson)] ++
    present "status" (vmi.status.map VmiStatus.toJson)

/-- Whether the machine belongs to the pool. -/
def isPooled (vmi : Vmi) : Bool :=
  (vmi.metadata.label? poolStateLabel).isSome

/-- The pool state of the machine; `none` outside the pool and for a label value
that stands for no state. -/
def poolState? (vmi : Vmi) : Option PoolState :=
  (vmi.metadata.label? poolStateLabel).bind PoolState.ofLabel?

/-- The key of the pod that the machine is labelled as claimed by. -/
def claimant? (vmi : Vmi) : Option String :=
  vmi.metadata.label? claimantLabel

/-- The phase of the machine. -/
def phase? (vmi : Vmi) : Option Phase :=
  vmi.status.bind VmiStatus.phase

/-- Whether the machine runs. -/
def isRunning (vmi : Vmi) : Bool :=
  vmi.phase? == some .running

/-- The name of the machine, which its node shares; empty without one. -/
def nodeName (vmi : Vmi) : String :=
  vmi.metadata.nameOrEmpty

end Vmi

end NodeGate
