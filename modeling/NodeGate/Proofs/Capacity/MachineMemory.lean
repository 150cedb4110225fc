import NodeGate.Machine.Manifest
import NodeGate.Proofs.Capacity.WrittenQuantity

/-!
# The size that a machine is built with

A manifest tells the memory of a machine as a text, which is read as that many mebibytes.
A machine that was built with one size therefore offers another exactly if neither its
cores nor its memory fall short. The size for a pod is never below the base.
-/

namespace NodeGate

open Text

/-- Whether a quantity is a whole number of units or more; both are compared at one power of
ten. -/
def Quantity.isAtLeast (amount : Nat) (quantity : Quantity) : Bool :=
  amount * Nat.pow 10 (-quantity.exponent).toNat ≤
    quantity.mantissa * quantity.binary * Nat.pow 10 quantity.exponent.toNat

/-- Mebibytes are read from the text that tells them. -/
theorem Quantity.parse_memoryText {amount : Nat} (small : amount < wordBound) :
    parse (Manifest.memoryText amount) = some ⟨amount, MachineSize.mebibyte, 0⟩ := by
  obtain ⟨digits, isDecimal⟩ := exists_spelled_of_readDigits (readDigits_decimal amount)
  have number : numberOf digits = amount := by
    have read := readDigits_decimal amount
    rw [isDecimal, readDigits_spelled] at read
    simpa using read
  have some_digit : digits ≠ [] := by
    rintro rfl
    exact decimal_ne_nil amount isDecimal
  let written : WrittenQuantity :=
    { whole := digits, suffix := .binary 1, some_digit := by simpa using some_digit }
  have isIn : written.IsIn (Manifest.memoryText amount) := by
    refine ⟨[], [], ?_, by simp, by simp⟩
    simp [Manifest.memoryText, decimalText, isDecimal, WrittenQuantity.spelling,
      WrittenQuantity.unsigned, WrittenQuantity.numeral, written, QuantitySuffix.spelling,
      QuantitySuffix.binaryMarks]
  have digitsNumber : numberOf written.digits = amount := by
    simpa [WrittenQuantity.digits, written] using number
  have unscaled : (QuantitySuffix.binary 1).InRange := by decide
  have pointless : 0 < Nat.pow 2 31 := by decide
  refine (WrittenQuantity.parse_eq_some_iff isIn).mpr ⟨⟨?_, pointless, unscaled, unscaled⟩, ?_⟩
  · rwa [digitsNumber]
  · rw [WrittenQuantity.quantity, digitsNumber]
    rfl

/-- The memory that the guest of a machine sees. -/
def Vmi.guestMemory? (vmi : Vmi) : Option Quantity :=
  vmi.spec.domain.memory.join.bind Quantity.parse

/-- A machine has exactly the cores and the guest memory of a size. -/
structure Vmi.IsSized (vmi : Vmi) (size : MachineSize) : Prop where
  cores : vmi.spec.domain.cpu.map Cpu.cores = some size.cores
  memory : vmi.guestMemory? = some ⟨size.memoryMi, MachineSize.mebibyte, 0⟩

/-- A machine has at least the cores and the guest memory of a size. -/
structure Vmi.Offers (vmi : Vmi) (size : MachineSize) : Prop where
  cores : ∃ cores, vmi.spec.domain.cpu.map Cpu.cores = some cores ∧ size.cores ≤ cores
  memory : ∃ memory, vmi.guestMemory? = some memory ∧
    memory.isAtLeast (size.memoryMi * MachineSize.mebibyte) = true

/-- What a machine of one size offers are the sizes that do not exceed it. -/
theorem Vmi.IsSized.offers_iff {vmi : Vmi} {own size : MachineSize} (sized : vmi.IsSized own) :
    vmi.Offers size ↔ size.cores ≤ own.cores ∧ size.memoryMi ≤ own.memoryMi := by
  have mebibyte_pos : 0 < MachineSize.mebibyte := by decide
  have memory_iff : Quantity.isAtLeast (size.memoryMi * MachineSize.mebibyte)
      ⟨own.memoryMi, MachineSize.mebibyte, 0⟩ = true ↔ size.memoryMi ≤ own.memoryMi := by
    simp [Quantity.isAtLeast, Nat.mul_le_mul_right_iff mebibyte_pos]
  constructor
  · rintro ⟨⟨cores, isCores, cores_le⟩, memory, isMemory, memory_le⟩
    obtain rfl := Option.some.inj (isCores.symm.trans sized.cores)
    obtain rfl := Option.some.inj (isMemory.symm.trans sized.memory)
    exact ⟨cores_le, memory_iff.mp memory_le⟩
  · rintro ⟨cores_le, memory_le⟩
    constructor
    · exact ⟨own.cores, sized.cores, cores_le⟩
    · exact ⟨_, sized.memory, memory_iff.mpr memory_le⟩

/-- A machine that was specified with a size has it. -/
theorem Vmi.isSized_of_spec {vmi : Vmi} {size : MachineSize} {image script : String}
    (bounded : size.memoryMi ≤ maxLong)
    (specified : vmi.spec = Manifest.specification size image script) : vmi.IsSized size := by
  have small : size.memoryMi < Quantity.wordBound := lt_of_le_of_lt bounded (by decide)
  constructor
  · rw [specified]
    rfl
  · have text : vmi.spec.domain.memory.join = some (Manifest.memoryText size.memoryMi) := by
      rw [specified]
      rfl
    rw [guestMemory?, text, Option.bind_some, Quantity.parse_memoryText small]

namespace MachineSize

variable {defaults : MachineDefaults} {pod : Pod} {size : MachineSize}

/-- The size for a pod is at least the base. -/
theorem base_le_of_ofPod (sized : ofPod defaults pod = .ok size) :
    (base defaults).cores ≤ size.cores ∧ (base defaults).memoryMi ≤ size.memoryMi := by
  unfold ofPod at sized
  split at sized
  · cases sized
    exact ⟨le_max_right _ _, le_max_right _ _⟩
  · contradiction

/-- The memory for a pod stays in the range of the base. -/
theorem memoryMi_le_of_ofPod (bounded : defaults.baseMemoryMi ≤ maxLong)
    (sized : ofPod defaults pod = .ok size) : size.memoryMi ≤ maxLong := by
  unfold ofPod at sized
  split at sized
  · cases sized
    refine max_le (max_le ?_ (by decide)) bounded
    exact (Nat.div_le_self _ _).trans (min_le_right _ _)
  · contradiction

/-- What does not exceed the base is the base. -/
theorem eq_base_iff (sized : ofPod defaults pod = .ok size) :
    size = base defaults ↔
      size.cores ≤ (base defaults).cores ∧ size.memoryMi ≤ (base defaults).memoryMi := by
  obtain ⟨cores_le, memory_le⟩ := base_le_of_ofPod sized
  constructor
  · rintro rfl
    exact ⟨le_rfl, le_rfl⟩
  · rintro ⟨cores_ge, memory_ge⟩
    have cores := le_antisymm cores_ge cores_le
    have memory := le_antisymm memory_ge memory_le
    cases size
    simp only at cores memory
    rw [cores, memory]

end MachineSize

section Manifests

variable {size : MachineSize} {amount : Nat}

/-- A memory text is read as so many bytes, at most the largest number of them. -/
theorem Quantity.memoryBytes_memoryText (bounded : amount ≤ maxLong) :
    memoryBytes (Manifest.memoryText amount) = .ok (min (amount * 2 ^ 20) (2 ^ 64 - 1)) := by
  have small : amount < wordBound := lt_of_le_of_lt bounded (by decide)
  -- Neither the factor nor the sum of its digits leads beyond what the reader can hold.
  have inside : ¬wordBound ≤ amount * MachineSize.mebibyte := by
    have largest : maxLong * MachineSize.mebibyte < wordBound := by decide
    exact not_le.mpr ((Nat.mul_le_mul_right _ bounded).trans_lt largest)
  have measured : measure 0 ⟨amount, MachineSize.mebibyte, 0⟩ =
      min (amount * MachineSize.mebibyte) maxMeasure := by
    simp [measure, inside]
  rw [memoryBytes, parse_memoryText small]
  exact congrArg Except.ok measured

/-- A machine is specified with a size: its processor has the cores of the size, its guest
sees the memory that is requested for it, and the text that tells both is read as that
many mebibytes, at most the largest number of bytes. -/
structure Vmi.IsBuiltWith (vmi : Vmi) (size : MachineSize) : Prop where
  processor : vmi.spec.domain.cpu = some { cores := size.cores, sockets := 1, threads := 1 }
  memory : ∃ text, vmi.spec.domain.memory = some (some text) ∧
    vmi.spec.domain.requests.bind (Entries.get? "memory") = some text ∧
    Quantity.memoryBytes text = .ok (min (size.memoryMi * 2 ^ 20) (2 ^ 64 - 1))

/-- What is specified with a size is built with it, whatever it boots. -/
theorem Vmi.isBuiltWith_of_spec {vmi : Vmi} {image script : String}
    (bounded : size.memoryMi ≤ maxLong)
    (specified : vmi.spec = Manifest.specification size image script) : vmi.IsBuiltWith size := by
  constructor
  · rw [specified]
    rfl
  · refine ⟨Manifest.memoryText size.memoryMi, ?_, ?_, Quantity.memoryBytes_memoryText bounded⟩
    · rw [specified]
      rfl
    · rw [specified]
      rfl

/-- Machines for one pod are built with the size that is asked for and machines for the pool
with the base size. -/
theorem Manifest.machines_built_with_size (space name : String) (join : JoinSettings)
    {defaults : MachineDefaults} (bounded : size.memoryMi ≤ maxLong)
    (baseBounded : defaults.baseMemoryMi ≤ maxLong) :
    (dedicated space name size defaults join).IsBuiltWith size ∧
      (pool space name defaults join).IsBuiltWith (MachineSize.base defaults) :=
  ⟨Vmi.isBuiltWith_of_spec bounded rfl, Vmi.isBuiltWith_of_spec baseBounded rfl⟩

/-- The largest size, whose bytes are more than can be counted, and a base without memory. -/
theorem Manifest.largest_machine_built_with_size :
    MachineSize.memoryMi ⟨maxWord, maxLong⟩ ≤ maxLong ∧
      MachineDefaults.baseMemoryMi { baseMemoryMi := 0 } ≤ maxLong ∧
      (dedicated "a" "p" ⟨maxWord, maxLong⟩ { baseMemoryMi := 0 } {}).IsBuiltWith
        ⟨maxWord, maxLong⟩ ∧
      (pool "a" "p" { baseMemoryMi := 0 } {}).IsBuiltWith ⟨2, 0⟩ :=
  ⟨le_rfl, Nat.zero_le _, machines_built_with_size "a" "p" {} le_rfl (Nat.zero_le _)⟩

end Manifests

end NodeGate
