import NodeGate.Resource.Vmi

/-!
# The cluster-wide configuration

The settings of machine sizes and of the pool that an operator keeps in the
cluster, and the counts that the controller reports back in their status.
-/

namespace NodeGate

/-- A configured machine size: whole cores, and memory in mebibytes. -/
structure SizeSetting where
  cores : Nat
  memoryMi : Nat
deriving DecidableEq

/-- Configured resources that a node needs for itself: thousandths of a core,
and memory in mebibytes. -/
structure OverheadSetting where
  cpuMillis : Nat
  memoryMi : Nat
deriving DecidableEq

/-- The settings of the controller. -/
structure GateConfigSpec where
  /-- How many unclaimed machines the pool should hold. -/
  poolSize : Nat := 0
  /-- The least size of any machine and the exact size of pool machines. -/
  base : Option SizeSetting := none
  overhead : Option OverheadSetting := none
  nodeImage : Option String := none
  taintKey : Option String := none
deriving DecidableEq

/-- The counts of the pool, as reported. -/
structure PoolStatus where
  /-- Unclaimed machines. -/
  total : Int := 0
  available : Int := 0
  claimed : Int := 0
  lastUpdate : Option Instant := none
deriving DecidableEq

/-- The configuration object. -/
structure GateConfig where
  metadata : ObjectMeta
  spec : GateConfigSpec
  status : Option PoolStatus := none
deriving DecidableEq

open Json

/-- Decodes a size. -/
def SizeSetting.decode (json : Json) : Option SizeSetting := do
  let fields ← record? ["cpu", "memoryMi"] json
  some {
    cores := ← required "cpu" (asNat maxWord) fields
    memoryMi := ← required "memoryMi" (asNat maxLong) fields }

/-- All fields of a size. -/
def SizeSetting.toJson (size : SizeSetting) : Json :=
  .obj [("cpu", .nat size.cores), ("memoryMi", .nat size.memoryMi)]

/-- Decodes an overhead. -/
def OverheadSetting.decode (json : Json) : Option OverheadSetting := do
  let fields ← record? ["cpuMillis", "memoryMi"] json
  some {
    cpuMillis := ← required "cpuMillis" (asNat maxLong) fields
    memoryMi := ← required "memoryMi" (asNat maxLong) fields }

/-- All fields of an overhead. -/
def OverheadSetting.toJson (overhead : OverheadSetting) : Json :=
  .obj [("cpuMillis", .nat overhead.cpuMillis), ("memoryMi", .nat overhead.memoryMi)]

/-- Decodes the settings. -/
def GateConfigSpec.decode (json : Json) : Option GateConfigSpec := do
  let fields ← record?
    ["warmPoolSize", "baseVMResources", "overheadResources", "nodeImage", "nodeTaintKey"] json
  some {
    poolSize := ← orDefault "warmPoolSize" 0 (asNat maxWord) fields
    base := ← optional "baseVMResources" SizeSetting.decode fields
    overhead := ← optional "overheadResources" OverheadSetting.decode fields
    nodeImage := ← optional "nodeImage" asText fields
    taintKey := ← optional "nodeTaintKey" asText fields }

/-- The settings that are set; the pool size is always written. -/
def GateConfigSpec.toJson (spec : GateConfigSpec) : Json :=
  .obj <|
    present "baseVMResources" (spec.base.map SizeSetting.toJson) ++
    present "nodeImage" (spec.nodeImage.map .str) ++
    present "nodeTaintKey" (spec.taintKey.map .str) ++
    present "overheadResources" (spec.overhead.map OverheadSetting.toJson) ++
    [("warmPoolSize", .nat spec.poolSize)]

/-- A decoder of whole numbers of 32 bits. -/
def asCount : Json → Option Int :=
  asInt (-(Int.pow 2 31)) (Int.pow 2 31 - 1)

namespace PoolStatus

/-- Decodes the reported counts. -/
def decode (json : Json) : Option PoolStatus := do
  let fields ← record?
    ["warmPoolTotal", "warmPoolAvailable", "warmPoolClaimed", "lastPoolUpdate"] json
  some {
    total := ← orDefault "warmPoolTotal" 0 asCount fields
    available := ← orDefault "warmPoolAvailable" 0 asCount fields
    claimed := ← orDefault "warmPoolClaimed" 0 asCount fields
    lastUpdate := ← optional "lastPoolUpdate" Instant.decode fields }

/-- The counts, and the time of their last change if there is one. -/
def toJson (status : PoolStatus) : Json :=
  .obj <|
    present "lastPoolUpdate" (status.lastUpdate.map (.str ·.text)) ++
    [("warmPoolAvailable", .int status.available), ("warmPoolClaimed", .int status.claimed),
      ("warmPoolTotal", .int status.total)]

/-- Whether any count differs; times do not matter. -/
def hasOtherCounts (status other : PoolStatus) : Bool :=
  status.total != other.total || status.available != other.available ||
    status.claimed != other.claimed

end PoolStatus

namespace GateConfig

/-- Decodes a configuration object. -/
def decode (json : Json) : Option GateConfig := do
  let fields ← objectFields? json
  some {
    metadata := ← required "metadata" ObjectMeta.decode fields
    spec := ← required "spec" GateConfigSpec.decode fields
    status := ← optional "status" PoolStatus.decode fields }

end GateConfig

end NodeGate
