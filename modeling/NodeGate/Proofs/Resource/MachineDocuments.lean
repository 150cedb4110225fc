import NodeGate.Proofs.Json.ReadingBack
import NodeGate.Resource.Vmi

/-!
# Machines as documents

The specification and the status of a machine are read back as they were written.
Each record is taken member by member: its fields are listed as they are written,
in the order of their names, and each is read back in its place. A number fits if
it has the width that its field has in the cluster, a map if its keys are in
order.
-/

namespace NodeGate

open Json Entries

section Parts

/-- A number that is zero when it is missing. -/
theorem numberMember (name : String) (limit : Nat) :
    MemberReadsBack (· ≤ limit) name (fun value => some (nat value))
      (orDefault name 0 (asNat limit)) :=
  (asNat_readsBack limit).orDefault name (Nat.zero_le _) fun _ => .inl rfl

/-- A text that may be missing. -/
theorem textMember (name : String) :
    MemberReadsBack (fun _ => True) name (Option.map .str) (Json.optional name asText) :=
  (asText_readsBack.optional name fun _ => Json.noConfusion).unrestricted fun _ _ _ => trivial

/-- The record whose one field is an optional text. -/
def textRecord (name : String) (text : Option String) : Written where
  fields := [(name, text.map .str)]
  ordered := List.pairwise_singleton _ _

theorem optionalText_readsBack (name : String) :
    ReadsBack (fun _ => True) (optionalTextToJson name) (decodeOptionalText name) where
  decode_encode text _ := by
    have written : optionalTextToJson name text = (textRecord name text).json := by
      simp [optionalTextToJson, textRecord, Written.json, Written.members]
    rw [written, decodeOptionalText, Written.record?_json]
    exact (textMember name).read_written (textRecord name text) text (.head _) trivial
  fits_of_decode _ _ _ := trivial

/-- A record of an optional text that may be missing itself. -/
theorem textRecordMember (name inner : String) :
    MemberReadsBack (fun _ => True) name (Option.map (optionalTextToJson inner))
      (Json.optional name (decodeOptionalText inner)) :=
  ((optionalText_readsBack inner).optional name fun _ => Json.noConfusion).unrestricted
    fun _ _ _ => trivial

/-- The marker that is there if it is set. -/
def markerIf (set : Bool) : Option Unit :=
  if set then some () else none

@[simp]
theorem isSome_markerIf (set : Bool) : (markerIf set).isSome = set := by
  cases set <;> rfl

theorem markerMember (name : String) :
    MemberReadsBack (fun _ => True) name (Option.map fun _ => .obj [])
      (Json.optional name decodeMarker) :=
  have back : ReadsBack (fun _ => True) (fun _ => .obj []) decodeMarker :=
    ⟨fun _ _ => rfl, fun _ _ _ => trivial⟩
  (back.optional name fun _ => Json.noConfusion).unrestricted fun _ _ _ => trivial

theorem marker_eq (name : String) (set : Bool) :
    marker name set = present name ((markerIf set).map fun _ => .obj []) := by
  cases set <;> rfl

theorem presentList_eq {α : Type} (name : String) (encode : α → Json) (items : List α) :
    presentList name (items.map encode) =
      present name (if items.isEmpty then none else some (.arr (items.map encode))) := by
  cases items <;> rfl

end Parts

namespace Cpu

/-- The numbers of a processor have 32 bits. -/
structure Fits (cpu : Cpu) : Prop where
  cores : cpu.cores ≤ maxWord
  sockets : cpu.sockets ≤ maxWord
  threads : cpu.threads ≤ maxWord

/-- A processor as it is written. -/
def written (cpu : Cpu) : Written where
  fields := [("cores", some (nat cpu.cores)), ("sockets", some (nat cpu.sockets)),
    ("threads", some (nat cpu.threads))]
  ordered := show ["cores", "sockets", "threads"].Pairwise (· < ·) by decide

theorem readsBack : ReadsBack Fits toJson decode where
  decode_encode cpu fits := by
    have cores := (numberMember "cores" maxWord).read_written cpu.written cpu.cores
      (by simp [written]) fits.cores
    have sockets := (numberMember "sockets" maxWord).read_written cpu.written cpu.sockets
      (by simp [written]) fits.sockets
    have threads := (numberMember "threads" maxWord).read_written cpu.written cpu.threads
      (by simp [written]) fits.threads
    have same : cpu.toJson = cpu.written.json := rfl
    rw [same, decode, Written.record?_json]
    simp [cores, sockets, threads]
  fits_of_decode json cpu decoded := by
    simp only [decode, Option.bind_eq_bind, Option.bind_eq_some_iff, Option.some.injEq] at decoded
    obtain ⟨_, -, _, cores, _, sockets, _, threads, rfl⟩ := decoded
    exact ⟨(numberMember _ _).fits_of_read cores, (numberMember _ _).fits_of_read sockets,
      (numberMember _ _).fits_of_read threads⟩

end Cpu

namespace Disk

/-- A disk as it is written. -/
def written (disk : Disk) : Written where
  fields := [("disk", disk.target.map (optionalTextToJson "bus")), ("name", some (.str disk.name))]
  ordered := show ["disk", "name"].Pairwise (· < ·) by decide

theorem readsBack : ReadsBack (fun _ => True) toJson decode where
  decode_encode disk _ := by
    have name := (asText_readsBack.required "name").read_written disk.written disk.name
      (by simp [written]) trivial
    have target := (textRecordMember "disk" "bus").read_written disk.written disk.target
      (by simp [written]) trivial
    have same : disk.toJson = disk.written.json := by
      simp [toJson, written, Written.json, Written.members, present]
    rw [same, decode, Written.record?_json]
    simp [name, target]
  fits_of_decode _ _ _ := trivial

end Disk

namespace Interface

/-- A network interface as it is written. -/
def written (interface : Interface) : Written where
  fields := [("masquerade", (markerIf interface.masquerade).map fun _ => .obj []),
    ("name", some (.str interface.name))]
  ordered := show ["masquerade", "name"].Pairwise (· < ·) by decide

theorem readsBack : ReadsBack (fun _ => True) toJson decode where
  decode_encode interface _ := by
    have name := (asText_readsBack.required "name").read_written interface.written
      interface.name (by simp [written]) trivial
    have masquerade := (markerMember "masquerade").read_written interface.written
      (markerIf interface.masquerade) (by simp [written]) trivial
    have same : interface.toJson = interface.written.json := by
      simp [toJson, marker_eq, written, Written.json, Written.members, present]
    rw [same, decode, Written.record?_json]
    simp [name, masquerade]
  fits_of_decode _ _ _ := trivial

end Interface

namespace Devices

/-- Devices as they are written. -/
def written (devices : Devices) : Written where
  fields := [
    ("disks", if devices.disks.isEmpty then none else
      some (.arr (devices.disks.map Disk.toJson))),
    ("interfaces", if devices.interfaces.isEmpty then none else
      some (.arr (devices.interfaces.map Interface.toJson)))]
  ordered := show ["disks", "interfaces"].Pairwise (· < ·) by decide

theorem readsBack : ReadsBack (fun _ => True) toJson decode where
  decode_encode devices _ := by
    have disks := (Disk.readsBack.listMember "disks").read_written devices.written
      devices.disks (by simp [written]) fun _ _ => trivial
    have interfaces := (Interface.readsBack.listMember "interfaces").read_written devices.written
      devices.interfaces (by simp [written]) fun _ _ => trivial
    have same : devices.toJson = devices.written.json := by
      simp [toJson, presentList_eq, written, Written.json, Written.members]
    rw [same, decode, Written.record?_json]
    simp [disks, interfaces]
  fits_of_decode _ _ _ := trivial

end Devices

namespace Domain

/-- The resource requests of a domain as they are written. -/
def writtenRequests (requests : Entries String) : Written where
  fields := [("requests", if requests.isEmpty then none else some (textEntries requests))]
  ordered := List.pairwise_singleton _ _

/-- Resource requests are left out when there are none. -/
theorem requestsMember :
    MemberReadsBack Sorted "requests"
      (fun requests => if requests.isEmpty then none else some (textEntries requests))
      (orDefault "requests" [] asTextEntries) := by
  refine asTextEntries_readsBack.orDefault "requests" .nil fun requests => ?_
  cases requests with
  | nil => exact .inr ⟨rfl, rfl⟩
  | cons request rest => exact .inl rfl

theorem requests_readsBack : ReadsBack Sorted requestsToJson decodeRequests where
  decode_encode requests sorted := by
    have same : requestsToJson requests = (writtenRequests requests).json := by
      cases requests <;> rfl
    rw [same, decodeRequests, Written.record?_json]
    exact requestsMember.read_written (writtenRequests requests) requests (.head _) sorted
  fits_of_decode json requests decoded := by
    obtain ⟨fields, -, read⟩ := Option.bind_eq_some_iff.mp decoded
    exact requestsMember.fits_of_read read

/-- The processor fits, and the resource requests are a map. -/
structure Fits (domain : Domain) : Prop where
  cpu : ∀ cpu, domain.cpu = some cpu → cpu.Fits
  requests : ∀ requests, domain.requests = some requests → Sorted requests

/-- A domain as it is written. -/
def written (domain : Domain) : Written where
  fields := [
    ("cpu", domain.cpu.map Cpu.toJson),
    ("devices", some domain.devices.toJson),
    ("memory", domain.memory.map (optionalTextToJson "guest")),
    ("resources", domain.requests.map requestsToJson)]
  ordered := show ["cpu", "devices", "memory", "resources"].Pairwise (· < ·) by decide

theorem cpuMember :
    MemberReadsBack (fun found => ∀ cpu, found = some cpu → cpu.Fits) "cpu"
      (Option.map Cpu.toJson) (Json.optional "cpu" Cpu.decode) :=
  Cpu.readsBack.optional "cpu" fun _ => Json.noConfusion

theorem resourcesMember :
    MemberReadsBack (fun found => ∀ requests, found = some requests → Sorted requests) "resources"
      (Option.map requestsToJson) (Json.optional "resources" decodeRequests) :=
  requests_readsBack.optional "resources" fun _ => Json.noConfusion

theorem devicesMember :
    MemberReadsBack (fun _ => True) "devices" (fun devices : Devices => some devices.toJson)
      (orDefault "devices" {} Devices.decode) :=
  Devices.readsBack.orDefault "devices" trivial fun _ => .inl rfl

theorem readsBack : ReadsBack Fits toJson decode where
  decode_encode domain fits := by
    have cpu := cpuMember.read_written domain.written domain.cpu (by simp [written]) fits.cpu
    have devices := devicesMember.read_written domain.written domain.devices
      (by simp [written]) trivial
    have memory := (textRecordMember "memory" "guest").read_written domain.written domain.memory
      (by simp [written]) trivial
    have resources := resourcesMember.read_written domain.written domain.requests
      (by simp [written]) fits.requests
    have same : domain.toJson = domain.written.json := by
      simp [toJson, written, Written.json, Written.members, present]
    rw [same, decode, Written.record?_json]
    simp [cpu, devices, memory, resources]
  fits_of_decode json domain decoded := by
    simp only [decode, Option.bind_eq_bind, Option.bind_eq_some_iff, Option.some.injEq] at decoded
    obtain ⟨_, -, _, cpu, _, -, _, -, _, requests, rfl⟩ := decoded
    exact ⟨cpuMember.fits_of_read cpu, resourcesMember.fits_of_read requests⟩

end Domain

namespace Network

/-- A network as it is written. -/
def written (network : Network) : Written where
  fields := [("name", some (.str network.name)),
    ("pod", (markerIf network.podNetwork).map fun _ => .obj [])]
  ordered := show ["name", "pod"].Pairwise (· < ·) by decide

theorem readsBack : ReadsBack (fun _ => True) toJson decode where
  decode_encode network _ := by
    have name := (asText_readsBack.required "name").read_written network.written
      network.name (by simp [written]) trivial
    have pod := (markerMember "pod").read_written network.written
      (markerIf network.podNetwork) (by simp [written]) trivial
    have same : network.toJson = network.written.json := by
      simp [toJson, marker_eq, written, Written.json, Written.members, present]
    rw [same, decode, Written.record?_json]
    simp [name, pod]
  fits_of_decode _ _ _ := trivial

end Network

namespace Volume

/-- The source of a container disk as it is written. -/
def writtenImage (image : String) : Written where
  fields := [("image", some (.str image))]
  ordered := List.pairwise_singleton _ _

theorem image_readsBack :
    ReadsBack (fun _ => True) (fun image => .obj [("image", .str image)]) decodeImage where
  decode_encode image _ := by
    have same : .obj [("image", .str image)] = (writtenImage image).json := rfl
    rw [same, decodeImage, Written.record?_json]
    exact (asText_readsBack.required "image").read_written (writtenImage image) image
      (.head _) trivial
  fits_of_decode _ _ _ := trivial

/-- A volume as it is written. -/
def written (volume : Volume) : Written where
  fields := [
    ("cloudInitNoCloud", volume.userData.map (optionalTextToJson "userDataBase64")),
    ("containerDisk", volume.image.map fun image => .obj [("image", .str image)]),
    ("name", some (.str volume.name))]
  ordered := show ["cloudInitNoCloud", "containerDisk", "name"].Pairwise (· < ·) by decide

theorem readsBack : ReadsBack (fun _ => True) toJson decode where
  decode_encode volume _ := by
    have name := (asText_readsBack.required "name").read_written volume.written
      volume.name (by simp [written]) trivial
    have image := (image_readsBack.optional "containerDisk" fun _ => Json.noConfusion).read_written
      volume.written volume.image (by simp [written]) fun _ _ => trivial
    have userData := (textRecordMember "cloudInitNoCloud" "userDataBase64").read_written
      volume.written volume.userData (by simp [written]) trivial
    have same : volume.toJson = volume.written.json := by
      simp [toJson, written, Written.json, Written.members, present]
    rw [same, decode, Written.record?_json]
    simp [name, image, userData]
  fits_of_decode _ _ _ := trivial

end Volume

namespace VmiSpec

/-- The domain fits. -/
structure Fits (spec : VmiSpec) : Prop where
  domain : spec.domain.Fits

/-- The specification of a machine as it is written. -/
def written (spec : VmiSpec) : Written where
  fields := [
    ("domain", some spec.domain.toJson),
    ("networks", if spec.networks.isEmpty then none else
      some (.arr (spec.networks.map Network.toJson))),
    ("volumes", if spec.volumes.isEmpty then none else
      some (.arr (spec.volumes.map Volume.toJson)))]
  ordered := show ["domain", "networks", "volumes"].Pairwise (· < ·) by decide

theorem readsBack : ReadsBack Fits toJson decode where
  decode_encode spec fits := by
    have domain := (Domain.readsBack.required "domain").read_written spec.written
      spec.domain (by simp [written]) fits.domain
    have networks := (Network.readsBack.listMember "networks").read_written spec.written
      spec.networks (by simp [written]) fun _ _ => trivial
    have volumes := (Volume.readsBack.listMember "volumes").read_written spec.written
      spec.volumes (by simp [written]) fun _ _ => trivial
    have same : spec.toJson = spec.written.json := by
      simp [toJson, presentList_eq, written, Written.json, Written.members, present]
    rw [same, decode, Written.record?_json]
    simp [domain, networks, volumes]
  fits_of_decode json spec decoded := by
    simp only [decode, Option.bind_eq_bind, Option.bind_eq_some_iff, Option.some.injEq] at decoded
    obtain ⟨_, -, _, domain, _, -, _, -, rfl⟩ := decoded
    exact ⟨(Domain.readsBack.required "domain").fits_of_read domain⟩

end VmiSpec

theorem Phase.readsBack :
    ReadsBack (fun _ => True) (fun phase => .str phase.name) Phase.decode where
  decode_encode phase _ := congrArg some (Phase.ofName_name phase)
  fits_of_decode _ _ _ := trivial

namespace VmiStatus

/-- The status of a machine as it is written. -/
def written (status : VmiStatus) : Written where
  fields := [("nodeName", status.nodeName.map .str),
    ("phase", status.phase.map fun phase => .str phase.name)]
  ordered := show ["nodeName", "phase"].Pairwise (· < ·) by decide

/-- Every status of a machine is read back, whatever its phase. -/
theorem readsBack : ReadsBack (fun _ => True) toJson decode where
  decode_encode status _ := by
    have phase := (Phase.readsBack.optional "phase" fun _ => Json.noConfusion).read_written
      status.written status.phase (by simp [written]) fun _ _ => trivial
    have nodeName := (textMember "nodeName").read_written status.written
      status.nodeName (by simp [written]) trivial
    have same : status.toJson = status.written.json := by
      simp [toJson, written, Written.json, Written.members]
    rw [same, decode, decodeWith, Written.record?_json]
    simp [phase, nodeName]
  fits_of_decode _ _ _ := trivial

end VmiStatus

end NodeGate
