import Mathlib.Data.Nat.Digits.Lemmas
import Mathlib.Tactic.Ring
import NodeGate.Text.Decimal

/-!
# Decimal numerals and their values

A decimal numeral consists of digits, at least one, and the number that was written is
read back from it. Conversely what is read as a number is a run of digits, and what is read
as a signed number is such a run with or without a sign in front.
-/

namespace NodeGate.Text

/-- Each digit is read back from its character. -/
theorem digitValue?_digitChar {value : Nat} (small : value < 10) :
    digitValue? (digitChar value) = some value := by
  revert value
  decide

/-- A character is a digit exactly when it is the digit of a number below ten. -/
theorem digitValue?_eq_some_iff {character : Char} {value : Nat} :
    digitValue? character = some value ↔ value < 10 ∧ character = digitChar value := by
  constructor
  · intro found
    unfold digitValue? at found
    split at found
    next within =>
      cases found
      have low : 48 ≤ character.toNat := within.1
      have high : character.toNat ≤ 57 := within.2
      refine ⟨by omega, ?_⟩
      rw [digitChar, Nat.add_sub_cancel' low, Char.ofNat_toNat]
    next => contradiction
  · rintro ⟨small, rfl⟩
    exact digitValue?_digitChar small

theorem decimal_ne_nil (value : Nat) : decimal value ≠ [] := by
  rw [decimal]
  split <;> simp

/-- The digits behind others are read on from the number that the others amount to. -/
theorem readDigits_append (read : Nat) (digits others : List Char) :
    readDigits read (digits ++ others) =
      (readDigits read digits).bind fun found => readDigits found others := by
  induction digits generalizing read with
  | nil => rfl
  | cons digit rest ih =>
      rw [List.cons_append, readDigits, readDigits]
      cases digitValue? digit with
      | none => rfl
      | some value => exact ih (10 * read + value)

/-- A number is read back from its numeral. -/
theorem readDigits_decimal (value : Nat) : readDigits 0 (decimal value) = some value := by
  induction value using decimal.induct with
  | case1 value small =>
      rw [decimal, if_pos small, readDigits, digitValue?_digitChar small]
      simp [readDigits]
  | case2 value large ih =>
      have last : value % 10 < 10 := Nat.mod_lt value (by decide)
      rw [decimal, if_neg large, readDigits_append, ih, Option.bind_some, readDigits,
        digitValue?_digitChar last]
      simp only [readDigits]
      rw [Nat.div_add_mod]

/-- The characters of digits. -/
def spelled (digits : List (Fin 10)) : List Char :=
  digits.map fun digit => digitChar digit.val

/-- The number that digits spell, the most significant first. -/
def numberOf (digits : List (Fin 10)) : Nat :=
  Nat.ofDigits 10 (digits.map Fin.val).reverse

theorem numberOf_cons (digit : Fin 10) (digits : List (Fin 10)) :
    numberOf (digit :: digits) = digit * 10 ^ digits.length + numberOf digits := by
  rw [numberOf, List.map_cons, List.reverse_cons, Nat.ofDigits_append, Nat.ofDigits_singleton,
    List.length_reverse, List.length_map, ← numberOf, Nat.mul_comm, Nat.add_comm]

/-- Digits are read as the number that they spell. -/
theorem readDigits_spelled (read : Nat) (digits : List (Fin 10)) :
    readDigits read (spelled digits) = some (read * 10 ^ digits.length + numberOf digits) := by
  induction digits generalizing read with
  | nil => simp [spelled, readDigits, numberOf]
  | cons digit rest ih =>
      rw [spelled, List.map_cons, readDigits, digitValue?_digitChar digit.isLt]
      dsimp only
      rw [← spelled, ih, numberOf_cons, List.length_cons]
      congr 1
      ring

/-- Only digits are read as a number. -/
theorem exists_spelled_of_readDigits {characters : List Char} {read number : Nat}
    (found : readDigits read characters = some number) :
    ∃ digits, characters = spelled digits := by
  induction characters generalizing read with
  | nil => exact ⟨[], rfl⟩
  | cons first rest ih =>
      rw [readDigits] at found
      split at found
      next digit isDigit =>
        obtain ⟨digits, rfl⟩ := ih found
        obtain ⟨small, rfl⟩ := digitValue?_eq_some_iff.mp isDigit
        exact ⟨⟨digit, small⟩ :: digits, rfl⟩
      next => contradiction

/-- A numeral consists of digits. -/
theorem isDigit_of_mem_decimal {value : Nat} {character : Char}
    (member : character ∈ decimal value) : (digitValue? character).isSome = true := by
  obtain ⟨digits, shape⟩ := exists_spelled_of_readDigits (readDigits_decimal value)
  rw [shape] at member
  obtain ⟨digit, -, rfl⟩ := List.mem_map.mp member
  rw [digitValue?_digitChar digit.isLt, Option.isSome_some]

/-- Only the numeral of zero starts with a zero. -/
theorem eq_zero_of_head?_decimal {value : Nat} (zero : (decimal value).head? = some '0') :
    value = 0 := by
  induction value using decimal.induct with
  | case1 value small =>
      rw [decimal, if_pos small, List.head?_cons, Option.some.injEq] at zero
      have digit := digitValue?_digitChar small
      rw [zero] at digit
      exact (Option.some.inj digit).symm
  | case2 value large ih =>
      rw [decimal, if_neg large, List.head?_append_of_ne_nil _ (decimal_ne_nil _)] at zero
      have := ih zero
      omega

/-- What may stand in front of the digits of a signed number. -/
inductive Sign where
  | absent
  | plus
  | minus
deriving DecidableEq, Repr

namespace Sign

/-- The sign as it is written. -/
def spelling : Sign → List Char
  | absent => []
  | plus => ['+']
  | minus => ['-']

/-- A number with the sign. -/
def applied (number : Nat) : Sign → Int
  | absent => number
  | plus => number
  | minus => -number

end Sign

theorem spelled_eq_cons {digits : List (Fin 10)} (some_digit : digits ≠ []) :
    ∃ (first : Fin 10) (rest : List (Fin 10)),
      spelled digits = digitChar first :: spelled rest := by
  obtain ⟨first, rest, rfl⟩ := List.exists_cons_of_ne_nil some_digit
  exact ⟨first, rest, rfl⟩

theorem within_spelled (limit : Nat) (sign : Int) (digits : List (Fin 10)) :
    readSigned.within limit sign (spelled digits) =
      if numberOf digits ≤ limit then some (sign * numberOf digits) else none := by
  rw [readSigned.within, readDigits_spelled, Nat.zero_mul, Nat.zero_add]

/-- A signed number is read if it lies within the bounds. -/
theorem readSigned_spelling (below above : Nat) (sign : Sign) {digits : List (Fin 10)}
    (some_digit : digits ≠ []) :
    readSigned below above (sign.spelling ++ spelled digits) =
      if -below ≤ sign.applied (numberOf digits) ∧ sign.applied (numberOf digits) ≤ above then
        some (sign.applied (numberOf digits))
      else none := by
  obtain ⟨first, rest, shape⟩ := spelled_eq_cons some_digit
  have filled : (spelled digits).isEmpty = false := by rw [shape, List.isEmpty_cons]
  cases sign with
  | absent =>
      have unsigned : readSigned below above (spelled digits) =
          readSigned.within above 1 (spelled digits) := by
        have apart : ∀ digit : Fin 10, digitChar digit ≠ '+' ∧ digitChar digit ≠ '-' := by decide
        rw [shape, readSigned] <;> simp [apart first]
      rw [Sign.spelling, List.nil_append, unsigned, within_spelled]
      refine if_congr ?_ (by rw [one_mul, Sign.applied]) rfl
      simp only [Sign.applied]
      omega
  | plus =>
      rw [Sign.spelling, List.singleton_append, readSigned, if_neg (by simp [filled]),
        within_spelled]
      refine if_congr ?_ (by rw [one_mul, Sign.applied]) rfl
      simp only [Sign.applied]
      omega
  | minus =>
      rw [Sign.spelling, List.singleton_append, readSigned, if_neg (by simp [filled]),
        within_spelled]
      refine if_congr ?_ (by rw [neg_one_mul, Sign.applied]) rfl
      simp only [Sign.applied]
      omega

/-- What is read as a signed number has digits behind its sign. -/
theorem exists_spelling_of_readSigned {below above : Nat} {characters : List Char} {number : Int}
    (found : readSigned below above characters = some number) :
    ∃ (sign : Sign) (digits : List (Fin 10)), digits ≠ [] ∧
      characters = sign.spelling ++ spelled digits := by
  have read {limit : Nat} {sign : Int} {characters : List Char}
      (within : readSigned.within limit sign characters = some number) :
      ∃ digits, characters = spelled digits := by
    rw [readSigned.within] at within
    split at within
    next value isValue => exact exists_spelled_of_readDigits isValue
    next => contradiction
  unfold readSigned at found
  split at found
  next => contradiction
  next characters =>
    split at found
    next => contradiction
    next filled =>
      obtain ⟨digits, rfl⟩ := read found
      exact ⟨.plus, digits, by rintro rfl; exact filled rfl, rfl⟩
  next characters =>
    split at found
    next => contradiction
    next filled =>
      obtain ⟨digits, rfl⟩ := read found
      exact ⟨.minus, digits, by rintro rfl; exact filled rfl, rfl⟩
  next filled _ _ =>
    obtain ⟨digits, rfl⟩ := read found
    exact ⟨.absent, digits, by rintro rfl; exact filled rfl, rfl⟩

end NodeGate.Text
