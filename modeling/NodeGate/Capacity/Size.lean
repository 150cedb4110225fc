import NodeGate.Capacity.Defaults
import NodeGate.Capacity.Quantity
import NodeGate.Resource.Pod

/-!
# Machine sizes

The size of the machine that hosts a pod: the requests of its containers plus
the overhead of the node, the processors rounded up to whole cores and the
memory rounded down to mebibytes, and never less than the configured base. Sums
stop at the largest number of 64 bits.
-/

namespace NodeGate

/-- Whole cores and mebibytes of a machine. -/
structure MachineSize where
  cores : Nat
  memoryMi : Nat
deriving DecidableEq, Repr

namespace MachineSize

/-- Bytes of a mebibyte. -/
def mebibyte : Nat := Nat.pow 2 20

/-- The sum, at most the largest number of 64 bits. -/
def cappedAdd (a b : Nat) : Nat :=
  min (a + b) maxLong

/-- The size of pool machines, which are made before their pod is known. -/
def base (defaults : MachineDefaults) : MachineSize where
  cores := defaults.baseCores
  memoryMi := defaults.baseMemoryMi

/-- Thousandths of a core and bytes of memory. -/
structure Demand where
  cpuMillis : Nat := 0
  memoryBytes : Nat := 0
deriving DecidableEq, Repr

/-- Adds what a text requests of one resource; without a text, nothing. -/
def addRequest (read : String → Except QuantityFault Nat) (sum : Nat) :
    Option String → Except QuantityFault Nat
  | none => .ok sum
  | some text =>
    match read text with
    | .ok amount => .ok (cappedAdd sum amount)
    | .error fault => .error fault

/-- Adds the requests of a container, the processor first. -/
def Demand.addContainer (demand : Demand) (container : Container) :
    Except QuantityFault Demand :=
  let requests := container.requests.getD []
  match addRequest Quantity.cpuMillis demand.cpuMillis (Entries.get? "cpu" requests) with
  | .error fault => .error fault
  | .ok cpuMillis =>
    match addRequest Quantity.memoryBytes demand.memoryBytes (Entries.get? "memory" requests) with
    | .error fault => .error fault
    | .ok memoryBytes => .ok ⟨cpuMillis, memoryBytes⟩

/-- Adds the requests of containers in order, up to the first that is no
quantity. -/
def Demand.addContainers (demand : Demand) : List Container → Except QuantityFault Demand
  | [] => .ok demand
  | container :: rest =>
    match demand.addContainer container with
    | .error fault => .error fault
    | .ok demand => demand.addContainers rest

/-- The summed requests of a pod's containers. -/
def demandOf (pod : Pod) : Except QuantityFault Demand :=
  Demand.addContainers {} ((pod.spec.map PodSpec.containers).getD [])

/-- The size that meets a demand on top of the overhead. -/
def ofDemand (defaults : MachineDefaults) (demand : Demand) : MachineSize :=
  let cpuMillis := cappedAdd demand.cpuMillis defaults.overheadCpuMillis
  let memoryBytes :=
    cappedAdd demand.memoryBytes (min (defaults.overheadMemoryMi * mebibyte) maxLong)
  { cores := max (max (min ((cpuMillis + 999) / 1000) maxWord) 1) defaults.baseCores
    memoryMi := max (max (memoryBytes / mebibyte) 512) defaults.baseMemoryMi }

/-- The size of a machine made for the pod. -/
def ofPod (defaults : MachineDefaults) (pod : Pod) : Except QuantityFault MachineSize :=
  match demandOf pod with
  | .ok demand => .ok (ofDemand defaults demand)
  | .error fault => .error fault

end MachineSize

end NodeGate
