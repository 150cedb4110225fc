import Mathlib.Algebra.Order.Floor.Div
import Mathlib.Algebra.Order.Floor.Semifield
import Mathlib.Data.Rat.Floor
import NodeGate.Proofs.Capacity.WrittenQuantity

/-!
# What quantities are measured as

The measure of a quantity is its exact amount in the unit of the resource, rounded up to a
whole number and held at the largest number of 64 bits. Two kinds of quantities are counted
as the largest measure without being measured: those whose mantissa and binary factor make
up more than 128 bits, however small the power of ten is that they are multiplied by, and
nothing times a power of ten of more than 128 bits.
-/

namespace NodeGate

namespace Quantity

/-- A ratio of natural numbers rounded up. -/
theorem ceil_div (number divisor : Nat) (positive : 0 < divisor) :
    ⌈(number : ℚ) / divisor⌉₊ = (number + (divisor - 1)) / divisor := by
  have positive' : (0 : ℚ) < divisor := by exact_mod_cast positive
  refine eq_of_forall_ge_iff fun bound => ?_
  rw [Nat.ceil_le, div_le_iff₀ positive', ← Nat.add_sub_assoc positive,
    ← Nat.ceilDiv_eq_add_pred_div, ceilDiv_le_iff_le_mul positive, Nat.mul_comm]
  exact_mod_cast Iff.rfl

variable {quantity : Quantity} {places : Nat}

/-- The exact amount in units of `10 ^ -places`, rounded up, or the largest measure if it
is more. -/
def roundedUp (places : Nat) (quantity : Quantity) : Nat :=
  min ⌈quantity.value * 10 ^ places⌉₊ maxMeasure

/-- Measuring stops at a product that does not fit into 128 bits, and at nothing times such a
power of ten. -/
def Overflows (places : Nat) (quantity : Quantity) : Prop :=
  wordBound ≤ quantity.mantissa * quantity.binary ∨
    (quantity.mantissa * quantity.binary = 0 ∧ 38 < quantity.exponent + places)

instance : Decidable (quantity.Overflows places) :=
  inferInstanceAs (Decidable (_ ∨ _))

theorem value_mul (quantity : Quantity) (places : Nat) :
    quantity.value * 10 ^ places =
      ((quantity.mantissa * quantity.binary : Nat) : ℚ) * 10 ^ (quantity.exponent + places) := by
  rw [value, zpow_add₀ (by norm_num), zpow_natCast]
  push_cast
  ring

/-- Powers of ten from the 39th on exceed 128 bits. -/
theorem wordBound_le_pow {exponent : Nat} (large : 38 < exponent) :
    wordBound ≤ 10 ^ exponent :=
  calc
    wordBound ≤ 10 ^ 39 := by decide
    _ ≤ 10 ^ exponent := Nat.pow_le_pow_right (by decide) large

/-- A quantity that cannot be measured counts as the largest measure. -/
theorem measure_of_overflows (overflows : quantity.Overflows places) :
    quantity.measure places = maxMeasure := by
  rw [measure]
  rcases overflows with wide | ⟨-, large⟩
  · exact if_pos wide
  · have whole : 0 ≤ quantity.exponent + places := by omega
    rw [if_pos whole, if_pos large, ite_self]

/-- Any other quantity is measured exactly. -/
theorem measure_of_not_overflows (inside : ¬quantity.Overflows places) :
    quantity.measure places = quantity.roundedUp places := by
  obtain ⟨narrow, low⟩ := not_or.mp inside
  rw [roundedUp, value_mul, measure]
  generalize quantity.mantissa * quantity.binary = number at narrow low
  generalize quantity.exponent + (places : ℤ) = exponent at low
  rw [if_neg narrow]
  by_cases whole : 0 ≤ exponent
  · obtain ⟨power, rfl⟩ := Int.eq_ofNat_of_zero_le whole
    have exact : ⌈(number : ℚ) * 10 ^ (power : ℤ)⌉₊ = number * 10 ^ power := by
      rw [zpow_natCast]
      exact_mod_cast Nat.ceil_natCast (number * 10 ^ power)
    rw [if_pos whole, exact]
    split
    next large =>
      have positive : 1 ≤ number := Nat.pos_of_ne_zero fun zero => low ⟨zero, large⟩
      have bound : maxMeasure ≤ number * 10 ^ power :=
        calc
          maxMeasure ≤ wordBound := by decide
          _ ≤ 10 ^ power := wordBound_le_pow (by omega)
          _ ≤ number * 10 ^ power := Nat.le_mul_of_pos_left _ positive
      rw [min_eq_right bound]
    next => rfl
  · obtain ⟨power, rfl⟩ : ∃ power : Nat, exponent = -power := ⟨exponent.natAbs, by omega⟩
    have exact : ⌈(number : ℚ) * 10 ^ (-power : ℤ)⌉₊ =
        (number + (10 ^ power - 1)) / 10 ^ power := by
      rw [zpow_neg, zpow_natCast, ← div_eq_mul_inv]
      exact_mod_cast ceil_div number (10 ^ power) (Nat.pow_pos (by decide))
    rw [if_neg whole, exact]
    split
    next tiny =>
      have below : number < 10 ^ power :=
        (Nat.not_le.mp narrow).trans_le (wordBound_le_pow (by omega))
      have small : (number + (10 ^ power - 1)) / 10 ^ power = min number 1 := by
        rcases Nat.eq_zero_or_pos number with rfl | positive
        · rw [Nat.zero_add, Nat.zero_min]
          exact Nat.div_eq_of_lt (by omega)
        · rw [min_eq_right positive]
          exact Nat.div_eq_of_lt_le (by omega) (by omega)
      have bound : min number 1 ≤ maxMeasure := (min_le_right number 1).trans (by decide)
      rw [small, min_eq_left bound]
    next =>
      rw [Int.natAbs_neg, Int.natAbs_natCast]
      rfl

/-- A quantity is measured exactly unless it cannot be measured. -/
theorem measure_eq (places : Nat) (quantity : Quantity) :
    quantity.measure places =
      if quantity.Overflows places then maxMeasure else quantity.roundedUp places := by
  split
  next overflows => exact measure_of_overflows overflows
  next inside => exact measure_of_not_overflows inside

end Quantity

namespace ResourceKind

open Quantity

/-- The decimal places of the unit in which a resource is measured: thousandths of a core and
whole bytes. -/
def places : ResourceKind → Nat
  | cpu => 3
  | memory => 0

/-- The amount of a resource that a text requests. -/
def amount : ResourceKind → String → Except QuantityFault Nat
  | cpu => cpuMillis
  | memory => memoryBytes

/-- What is requested is the measure of the quantity that is read. -/
theorem amount_of_parse {text : String} {quantity : Quantity}
    (read : parse text = some quantity) (kind : ResourceKind) :
    kind.amount text = .ok (quantity.measure kind.places) := by
  cases kind with
  | cpu => simp [amount, cpuMillis, read, places]
  | memory => simp [amount, memoryBytes, read, places]

/-- The amount that a text requests is the exact value that it denotes, rounded up and held
at the largest measure, unless the quantity cannot be measured; then it is the largest
measure, which is exact only if the exact value is at least that large. -/
theorem amount_exact_iff_measurable {text : String} {quantity : Quantity}
    (read : parse text = some quantity) (kind : ResourceKind) :
    Denotes text quantity.value ∧
      kind.amount text = .ok (if quantity.Overflows kind.places then maxMeasure
        else quantity.roundedUp kind.places) ∧
      (kind.amount text = .ok (quantity.roundedUp kind.places) ↔
        (quantity.Overflows kind.places → quantity.roundedUp kind.places = maxMeasure)) := by
  rw [amount_of_parse read, measure_eq]
  refine ⟨denotes_of_parse read, rfl, ?_⟩
  by_cases overflows : quantity.Overflows kind.places
  · rw [if_pos overflows, Except.ok.injEq]
    exact ⟨fun same _ => same.symm, fun same => (same overflows).symm⟩
  · rw [if_neg overflows]
    exact ⟨fun _ overflowed => absurd overflowed overflows, fun _ => rfl⟩

/-- A tenth of a thousandth of a core is measured as one thousandth. -/
theorem tenth_of_milli_exact :
    parse "+.1m" = some ⟨1, 1, -4⟩ ∧ Denotes "+.1m" (value ⟨1, 1, -4⟩) ∧
      cpu.amount "+.1m" = .ok (roundedUp 3 ⟨1, 1, -4⟩) := by
  have read : parse "+.1m" = some ⟨1, 1, -4⟩ := by decide
  obtain ⟨denotes, -, exact⟩ := amount_exact_iff_measurable read cpu
  exact ⟨read, denotes, exact.mpr fun overflows => absurd overflows (by decide)⟩

/-- Nothing times a power of ten is read as the largest measure if the power is large. -/
theorem zero_measured_as_largest :
    parse "0e39" = some ⟨0, 1, 39⟩ ∧ roundedUp memory.places ⟨0, 1, 39⟩ = 0 ∧
      memory.amount "0e39" = .ok maxMeasure := by
  refine ⟨by decide, ?_, by decide⟩
  simp [roundedUp, value, places]

/-- So is a third of an exbibyte that is written with too many digits. -/
example : memory.amount "0.333333333333333333333Ei" = .ok maxMeasure := by
  decide +kernel

end ResourceKind

end NodeGate
