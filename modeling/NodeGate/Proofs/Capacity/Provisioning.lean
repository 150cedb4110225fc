import NodeGate.Proofs.Capacity.MachineMemory
import NodeGate.Proofs.Capacity.PodRequests

/-!
# Machines are not too small

The size for a pod is held against the exact rational values that its requests denote. A
quantity is measured as no less than it is, or as the largest measure. Exact sums of
measures therefore meet what is needed, or reach the largest measure, and so does the size:
the processors up to the largest number of 32 bits, the memory up to one mebibyte short of
the bytes that 64 bits can count.
-/

namespace NodeGate

/-- Nothing is measured as less than it is, up to the largest measure. -/
theorem Quantity.value_le_measure (places : Nat) (quantity : Quantity) :
    quantity.value * 10 ^ places ≤ quantity.measure places ∨
      quantity.measure places = maxMeasure := by
  rw [measure_eq, roundedUp]
  split
  · exact .inr rfl
  · rcases le_total ⌈quantity.value * 10 ^ places⌉₊ maxMeasure with small | large
    · rw [min_eq_left small]
      exact .inl (Nat.le_ceil _)
    · exact .inr (min_eq_right large)

namespace Request

variable {request : Request}

/-- The exact value that is requested; a text that is no quantity has none. -/
def value (request : Request) : ℚ :=
  (request.quantity?.map Quantity.value).getD 0

/-- The exact values that are requested of a resource, summed up. -/
def needed (resource : ResourceKind) (requests : List Request) : ℚ :=
  ((requests.filter (·.resource = resource)).map value).sum

/-- A quantity denotes its exact value and no other. -/
theorem denotes_iff (readable : request.quantity? ≠ none) (number : ℚ) :
    Quantity.Denotes request.text number ↔ number = request.value := by
  obtain ⟨quantity, read⟩ := Option.ne_none_iff_exists'.mp readable
  have exact_value : request.value = quantity.value := by
    rw [value, read, Option.map_some, Option.getD_some]
  rw [exact_value]
  constructor
  · rintro ⟨written, isIn, fits, rfl⟩
    have known := (WrittenQuantity.parse_eq_some_iff isIn).mpr ⟨fits, rfl⟩
    rw [Option.some.inj (read.symm.trans known), WrittenQuantity.value_quantity]
  · rintro rfl
    exact Quantity.denotes_of_parse read

/-- Sums of measures meet what is needed, up to the largest measure. -/
theorem needed_le_sum_amounts (resource : ResourceKind) {requests : List Request}
    (readable : ∀ request ∈ requests, request.quantity? ≠ none) :
    needed resource requests * 10 ^ resource.places ≤ ((amounts resource requests).sum : Nat) ∨
      Quantity.maxMeasure ≤ (amounts resource requests).sum := by
  induction requests with
  | nil => exact .inl (by simp [needed])
  | cons request rest ih =>
      obtain ⟨quantity, read⟩ := Option.ne_none_iff_exists'.mp (readable request (.head _))
      rw [sum_amounts_cons read]
      by_cases same : request.resource = resource
      · have sum : needed resource (request :: rest) = quantity.value + needed resource rest := by
          simp [needed, same, value, read]
        rw [if_pos same, same, sum, add_mul]
        rcases quantity.value_le_measure resource.places with met | largest
        · rcases ih fun other member => readable other (.tail _ member) with rest_met | reached
          · left
            rw [Nat.cast_add]
            exact add_le_add met rest_met
          · exact .inr (reached.trans (Nat.le_add_left _ _))
        · exact .inr (largest ▸ Nat.le_add_right _ _)
      · have sum : needed resource (request :: rest) = needed resource rest := by
          simp [needed, same]
        rw [if_neg same, sum, Nat.zero_add]
        exact ih fun other member => readable other (.tail _ member)

end Request

/-- The exact value that the containers of a pod need of a resource. -/
def Pod.needed (pod : Pod) (resource : ResourceKind) : ℚ :=
  Request.needed resource pod.requested

namespace MachineSize

variable {defaults : MachineDefaults} {pod : Pod} {size : MachineSize}

/-- Only a pod whose requests are quantities has a size. -/
theorem readable_of_ofPod (sized : ofPod defaults pod = .ok size) :
    (∀ request ∈ pod.requested, request.quantity? ≠ none) ∧
      size = ofSums defaults (pod.total .cpu) (pod.total .memory) := by
  rw [ofPod, demandOf_eq] at sized
  cases unread : pod.requested.find? (·.quantity?.isNone) with
  | some request => simp [unread] at sized
  | none =>
      rw [unread] at sized
      constructor
      · intro request member none
        exact List.find?_eq_none.mp unread request member (by simp [none])
      · exact (Except.ok.inj sized).symm.trans (ofDemand_ofSums _ _ _)

/-- The cores meet an exact sum and the overhead, up to the largest number of 32 bits. -/
theorem cores_ofSums (defaults : MachineDefaults) (cpuMillis memoryBytes : Nat) :
    ((cpuMillis + defaults.overheadCpuMillis : Nat) : ℚ) / 1000 ≤
        (ofSums defaults cpuMillis memoryBytes).cores ∨
      maxWord ≤ (ofSums defaults cpuMillis memoryBytes).cores := by
  set demand := cpuMillis + defaults.overheadCpuMillis
  have rounded : min maxWord ⌈((min demand maxLong : Nat) : ℚ) / 1000⌉₊ ≤
      (ofSums defaults cpuMillis memoryBytes).cores :=
    (le_max_right _ _).trans (le_max_right _ _)
  rcases min_le_iff.mp rounded with large | met
  · exact .inr large
  rcases le_total demand maxLong with small | large
  · left
    rw [min_eq_left small] at met
    exact (Nat.le_ceil _).trans (by exact_mod_cast met)
  · right
    rw [min_eq_right large, ceil_thousandths] at met
    have range : maxWord ≤ (maxLong + 999) / 1000 := by decide
    exact range.trans met

/-- The memory meets an exact sum and the overhead, up to a mebibyte or to the range. -/
theorem memoryMi_ofSums (defaults : MachineDefaults) (cpuMillis memoryBytes : Nat) :
    memoryBytes + defaults.overheadMemoryMi * mebibyte <
        ((ofSums defaults cpuMillis memoryBytes).memoryMi + 1) * mebibyte ∨
      maxLong / mebibyte ≤ (ofSums defaults cpuMillis memoryBytes).memoryMi := by
  set demand := memoryBytes + min (defaults.overheadMemoryMi * mebibyte) maxLong
  have rounded : min demand maxLong / mebibyte ≤
      (ofSums defaults cpuMillis memoryBytes).memoryMi :=
    (le_max_right _ _).trans (le_max_right _ _)
  rcases lt_or_ge demand maxLong with small | large
  · left
    have uncapped : demand = memoryBytes + defaults.overheadMemoryMi * mebibyte := by omega
    rw [min_eq_left small.le, uncapped] at rounded
    exact Nat.lt_mul_of_div_lt (Nat.lt_succ_of_le rounded) (by decide)
  · right
    rwa [min_eq_right large] at rounded

/-- The cores meet what is needed. -/
theorem needed_le_cores (defaults : MachineDefaults)
    (readable : ∀ request ∈ pod.requested, request.quantity? ≠ none) (memoryBytes : Nat) :
    pod.needed .cpu + (defaults.overheadCpuMillis : ℚ) / 1000 ≤
        (ofSums defaults (pod.total .cpu) memoryBytes).cores ∨
      maxWord ≤ (ofSums defaults (pod.total .cpu) memoryBytes).cores := by
  rcases cores_ofSums defaults (pod.total .cpu) memoryBytes with covered | reached
  · generalize (ofSums defaults (pod.total .cpu) memoryBytes).cores = cores at covered
    rw [div_le_iff₀ (by norm_num)] at covered
    rcases Request.needed_le_sum_amounts .cpu readable with met | large
    · left
      have unit : (10 : ℚ) ^ ResourceKind.cpu.places = 1000 := by norm_num [ResourceKind.places]
      have needed : pod.needed .cpu * 1000 ≤ pod.total .cpu := unit ▸ met
      push_cast at covered
      linarith
    · right
      have covered : pod.total .cpu + defaults.overheadCpuMillis ≤ cores * 1000 := by
        exact_mod_cast covered
      have range : maxWord * 1000 ≤ maxLong := by decide
      refine Nat.le_of_mul_le_mul_right ?_ (by decide : 0 < 1000)
      calc
        maxWord * 1000 ≤ maxLong := range
        _ ≤ pod.total .cpu := large
        _ ≤ cores * 1000 := (Nat.le_add_right _ _).trans covered
  · exact .inr reached

/-- The memory meets what is needed. -/
theorem needed_lt_memoryMi (defaults : MachineDefaults)
    (readable : ∀ request ∈ pod.requested, request.quantity? ≠ none) (cpuMillis : Nat) :
    pod.needed .memory + (defaults.overheadMemoryMi : ℚ) * 2 ^ 20 <
        ((ofSums defaults cpuMillis (pod.total .memory)).memoryMi + 1 : ℚ) * 2 ^ 20 ∨
      2 ^ 44 - 1 ≤ (ofSums defaults cpuMillis (pod.total .memory)).memoryMi := by
  have range : maxLong / mebibyte = 2 ^ 44 - 1 := by decide
  rcases memoryMi_ofSums defaults cpuMillis (pod.total .memory) with covered | reached
  · generalize (ofSums defaults cpuMillis (pod.total .memory)).memoryMi = memoryMi at covered
    rcases Request.needed_le_sum_amounts .memory readable with met | large
    · left
      have unit : (10 : ℚ) ^ ResourceKind.memory.places = 1 := pow_zero 10
      have needed : pod.needed .memory ≤ pod.total .memory := by rwa [unit, mul_one] at met
      have covered : (pod.total .memory : ℚ) + defaults.overheadMemoryMi * 2 ^ 20 <
          (memoryMi + 1) * 2 ^ 20 := by
        exact_mod_cast covered
      exact (add_le_add_left needed _).trans_lt covered
    · right
      rw [← range]
      refine Nat.le_of_lt_succ (Nat.div_lt_of_lt_mul ?_)
      calc
        maxLong ≤ pod.total .memory := large
        _ ≤ pod.total .memory + defaults.overheadMemoryMi * mebibyte := Nat.le_add_right _ _
        _ < mebibyte * (memoryMi + 1) := by rwa [Nat.mul_comm mebibyte]
  · exact .inr (range ▸ reached)

/-- A machine that is made for a pod has the cores and, up to a mebibyte, the memory that the
exact values of the requests and the overhead come to, unless it is as large as its size can
tell; and it is never smaller than the base, whose cores are a number of 32 bits. -/
theorem size_meets_requests (word : defaults.baseCores ≤ maxWord)
    (sized : ofPod defaults pod = .ok size) :
    (∀ request ∈ pod.requested, ∀ number,
        Quantity.Denotes request.text number ↔ number = request.value) ∧
      (pod.needed .cpu + (defaults.overheadCpuMillis : ℚ) / 1000 ≤ size.cores ∨
        size.cores = maxWord) ∧
      (pod.needed .memory + (defaults.overheadMemoryMi : ℚ) * 2 ^ 20 <
          (size.memoryMi + 1 : ℚ) * 2 ^ 20 ∨
        2 ^ 44 - 1 ≤ size.memoryMi) ∧
      defaults.baseCores ≤ size.cores ∧ defaults.baseMemoryMi ≤ size.memoryMi := by
  obtain ⟨readable, isSize⟩ := readable_of_ofPod sized
  have cores_le : size.cores ≤ maxWord := by
    rw [isSize]
    exact max_le (by decide) (max_le word (min_le_left _ _))
  have cores := needed_le_cores defaults readable (pod.total .memory)
  have memory := needed_lt_memoryMi defaults readable (pod.total .cpu)
  rw [← isSize] at cores memory
  constructor
  · exact fun request member => Request.denotes_iff (readable request member)
  constructor
  · exact cores.imp_right fun reached => le_antisymm cores_le reached
  · exact ⟨memory, base_le_of_ofPod sized⟩

/-- A pod of a processor and a half and three gibibytes. -/
def modestPod : Pod :=
  { spec := some { containers :=
      [{ requests := some [("cpu", "1500m"), ("memory", "3Gi")] }] } }

/-- Two cores and three and a half gibibytes meet what it needs. -/
theorem modestPod_met : ofPod {} modestPod = .ok ⟨2, 3584⟩ ∧
    modestPod.needed .cpu + ((500 : Nat) : ℚ) / 1000 ≤ ((2 : Nat) : ℚ) ∧
    modestPod.needed .memory + ((512 : Nat) : ℚ) * 2 ^ 20 <
      (((3584 : Nat) : ℚ) + 1) * 2 ^ 20 := by
  have sized : ofPod {} modestPod = .ok ⟨2, 3584⟩ := by decide +kernel
  obtain ⟨-, cores, memory, -⟩ := size_meets_requests (by decide) sized
  constructor
  · exact sized
  constructor
  · exact cores.resolve_right (by decide)
  · exact memory.resolve_right (by decide)

end MachineSize

end NodeGate
