import NodeGate.Capacity.Size
import NodeGate.Resource.Node
import NodeGate.Settings
import NodeGate.Text.Base64

/-!
# Machine manifests

Dedicated machines and pool machines have one shape: the pod network behind
masquerade, the node image as a container disk, and a second disk with the
script that joins the machine to the cluster. A dedicated machine is named after
its pod and taints its node for that pod when it joins; a pool machine has a
generated name and its node is tainted only once it is claimed.
-/

namespace NodeGate.Manifest

/-- The disk that holds the node image. -/
def imageDisk : String := "containerdisk"

/-- The disk that holds the join script. -/
def scriptDisk : String := "cloudinitdisk"

/-- The network of every machine. -/
def networkName : String := "default"

/-- The taint that a machine made for one pod registers on its node. -/
def bootTaint (key : String) : Taint where
  key := key
  value := some "created"
  effect := noSchedule

/-- The part of the join script that registers a taint of the node. -/
def registration : Option Taint → String
  | none => ""
  | some taint =>
    "nodeRegistration:\n  taints:\n    - key: \"" ++ taint.key ++
      "\"\n      value: \"" ++ taint.value.getD "" ++
      "\"\n      effect: \"" ++ taint.effect ++ "\"\n"

/-- The script that joins a machine to the cluster as a node with a taint of the
given key. -/
def bootScript (join : JoinSettings) (taint : Option String) : String :=
  "#!/bin/sh\n\ncat <<EOF >/tmp/kubeadm-join-config.conf\n" ++
    "apiVersion: kubeadm.k8s.io/v1beta3\nkind: JoinConfiguration\n" ++
    registration (taint.map bootTaint) ++
    "discovery:\n  bootstrapToken:\n    unsafeSkipCAVerification: true\n" ++
    "    apiServerEndpoint: \"" ++ join.endpoint ++ "\"\n" ++
    "    token: \"" ++ join.token ++ "\"\n" ++
    "EOF\n\nkubeadm join --config /tmp/kubeadm-join-config.conf" ++
    " --ignore-preflight-errors=all --v=5\n"

/-- A memory size as a quantity. -/
def memoryText (memoryMi : Nat) : String :=
  Text.decimalText memoryMi ++ "Mi"

/-- The specification of a machine of a size that boots an image and runs a
script. -/
def specification (size : MachineSize) (image script : String) : VmiSpec where
  domain :=
    { cpu := some { cores := size.cores, sockets := 1, threads := 1 }
      devices :=
        { disks :=
            [{ name := imageDisk, target := some (some "virtio") },
              { name := scriptDisk, target := some (some "virtio") }]
          interfaces := [{ name := networkName, masquerade := true }] }
      memory := some (some (memoryText size.memoryMi))
      requests := some [("memory", memoryText size.memoryMi)] }
  networks := [{ name := networkName, podNetwork := true }]
  volumes :=
    [{ name := imageDisk, image := some image },
      { name := scriptDisk, userData := some (some (Text.Base64.encodeText script)) }]

/-- The machine made for the pod of that name. -/
def dedicated (space podName : String) (size : MachineSize) (defaults : MachineDefaults)
    (join : JoinSettings) : Vmi where
  metadata := { name := some podName, space := some space }
  spec :=
    specification size defaults.nodeImage
      (bootScript join (some (reservationKey podName defaults.taintKey)))

/-- A machine made for the pool, which starts in the first pool state. -/
def pool (space name : String) (defaults : MachineDefaults) (join : JoinSettings) : Vmi where
  metadata :=
    { name := some name
      space := some space
      labels := some [(poolStateLabel, PoolState.initial.label)] }
  spec := specification (MachineSize.base defaults) defaults.nodeImage (bootScript join none)

/-- The name of a pool machine with the given distinguishing part. -/
def poolName (part : String) : String :=
  poolNameStem ++ part

/-- The length of the distinguishing part of a generated name. -/
def poolNameDigits : Nat := 8

/-- The distinguishing part that a random number gives: its last eight
hexadecimal digits. -/
def poolNamePart (random : Nat) : String :=
  String.ofList (go poolNameDigits random [])
where
  /-- The given number of last digits, in front of those already found. -/
  go : Nat → Nat → List Char → List Char
    | 0, _, digits => digits
    | count + 1, value, digits =>
      go count (value / 16) (Text.hexDigitChar (value % 16) :: digits)

/-- What the form of a generated name is, beside another generated name. -/
structure NameShape where
  hasStem : Bool
  partLength : Nat
  isAlphanumeric : Bool
  isFresh : Bool
deriving DecidableEq, Repr

/-- Examines a name that should have the stem of pool names. -/
def NameShape.of (name other : String) : NameShape :=
  let stem := poolNameStem.toList
  let part := name.toList.drop stem.length
  { hasStem := name.toList.take stem.length == stem
    partLength := part.length
    isAlphanumeric := part.all fun c => ('a' ≤ c && c ≤ 'z') || ('0' ≤ c && c ≤ '9')
    isFresh := name != other }

/-- The user data of a machine's second volume, decoded. -/
def userData? (vmi : Vmi) : Option String := do
  let volume ← vmi.spec.volumes[1]?
  let data ← volume.userData.join
  Text.Base64.decodeText? data

end NodeGate.Manifest
