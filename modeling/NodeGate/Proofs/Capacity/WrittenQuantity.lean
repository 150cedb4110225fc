import Mathlib.Algebra.Order.Field.Basic
import Mathlib.Data.List.TakeWhile
import Mathlib.Data.Rat.Cast.Defs
import Mathlib.Tactic.NormNum
import Mathlib.Tactic.Ring
import NodeGate.Capacity.Quantity
import NodeGate.Proofs.Text.Blank
import NodeGate.Proofs.Text.Decimal

/-!
# How quantities are written

A quantity in writing is a run of digits with at most one point, a suffix that scales it, at
most one plus sign in front and blanks around all of it. It stands for a rational number. A
text is read as a quantity exactly if it is such a writing and its parts fit into the words
that hold them, and what is read then has the value that is written.
-/

namespace NodeGate

open Quantity Text

/-- What follows the digits of a quantity. -/
inductive QuantitySuffix where
  /-- A power of a thousand, from billionths on; the fourth is one and has no letter. -/
  | thousands (step : Fin 10)
  /-- A power of 1024, from the first on. -/
  | binary (step : Fin 6)
  /-- A power of ten, told by its exponent. -/
  | exponent (capital : Bool) (sign : Sign) (digits : List (Fin 10))
      (some_digit : digits ≠ [])
deriving DecidableEq, Repr

namespace QuantitySuffix

/-- The letters of the powers of a thousand. -/
def thousandsMarks : Vector (List Char) 10 :=
  #v[['n'], ['u'], ['m'], [], ['k'], ['M'], ['G'], ['T'], ['P'], ['E']]

/-- The letters of the powers of 1024. -/
def binaryMarks : Vector (List Char) 6 :=
  #v[['K', 'i'], ['M', 'i'], ['G', 'i'], ['T', 'i'], ['P', 'i'], ['E', 'i']]

/-- The suffix as it is written. -/
def spelling : QuantitySuffix → List Char
  | thousands step => thousandsMarks[step]
  | binary step => binaryMarks[step]
  | exponent capital sign digits _ =>
    (if capital then 'E' else 'e') :: (sign.spelling ++ spelled digits)

/-- The number that the suffix multiplies by. -/
def factor : QuantitySuffix → ℚ
  | thousands step => 1000 ^ ((step : ℤ) - 3)
  | binary step => 1024 ^ (step.val + 1)
  | exponent _ sign digits _ => 10 ^ sign.applied (numberOf digits)

/-- The exponent of ten in the factor. -/
def power : QuantitySuffix → ℤ
  | thousands step => 3 * ((step : ℤ) - 3)
  | binary _ => 0
  | exponent _ sign digits _ => sign.applied (numberOf digits)

/-- The binary part of the factor. -/
def multiple : QuantitySuffix → Nat
  | thousands _ => 1
  | binary step => 1024 ^ (step.val + 1)
  | exponent .. => 1

/-- The factor is its binary part times a power of ten. -/
theorem factor_eq (suffix : QuantitySuffix) :
    suffix.factor = suffix.multiple * 10 ^ suffix.power := by
  cases suffix with
  | thousands step =>
      rw [factor, multiple, power, Nat.cast_one, one_mul, zpow_mul]
      norm_num
  | binary step => simp [factor, multiple, power]
  | exponent _ sign digits _ => simp [factor, multiple, power]

/-- Whether the exponent of ten is a number of 32 bits with sign. -/
def InRange (suffix : QuantitySuffix) : Prop :=
  -(Int.pow 2 31) ≤ suffix.power ∧ suffix.power ≤ Int.pow 2 31 - 1

instance : DecidablePred InRange :=
  fun _ => inferInstanceAs (Decidable (_ ∧ _))

end QuantitySuffix

/-- A digit is part of a numeral and no blank, sign or point. -/
theorem Quantity.isNumeral_of_mem_spelled {digits : List (Fin 10)} {character : Char}
    (member : character ∈ spelled digits) :
    isNumeral character = true ∧ isBlank character = false ∧ character ≠ '+' ∧
      character ≠ '.' := by
  obtain ⟨digit, -, rfl⟩ := List.mem_map.mp member
  clear member
  revert digit
  decide

/-- The names of the suffixes without an exponent. -/
def namedSuffixes : List String :=
  ["", "n", "u", "m", "k", "M", "G", "T", "P", "E", "Ki", "Mi", "Gi", "Ti", "Pi", "Ei"]

theorem Quantity.mem_of_suffixScale? {name : String} {scale : Nat × Int}
    (found : suffixScale? name = some scale) : name ∈ namedSuffixes := by
  by_contra unnamed
  simp only [namedSuffixes, List.mem_cons, List.not_mem_nil, or_false, not_or] at unnamed
  simp [suffixScale?, unnamed] at found

namespace QuantitySuffix

/-- A suffix with an exponent has no name. -/
theorem suffixScale?_exponent (capital : Bool) (sign : Sign) (digits : List (Fin 10))
    (some_digit : digits ≠ []) :
    suffixScale? (String.ofList (exponent capital sign digits some_digit).spelling) = none := by
  by_contra named
  obtain ⟨scale, found⟩ := Option.ne_none_iff_exists'.mp named
  have ending : ∀ name ∈ namedSuffixes,
      name.toList.head? = some 'e' ∨ name.toList.head? = some 'E' →
        name.toList.tail = [] ∨ name.toList.tail = ['i'] := by decide
  have tail := ending _ (mem_of_suffixScale? found) (by cases capital <;> simp [spelling])
  obtain ⟨first, rest, shape⟩ := spelled_eq_cons some_digit
  have apart : ∀ digit : Fin 10, digitChar digit ≠ 'i' := by decide
  cases sign <;> simp [spelling, Sign.spelling, shape, apart first] at tail

/-- A suffix is read if its exponent of ten is in range. -/
theorem scale?_spelling (suffix : QuantitySuffix) :
    scale? suffix.spelling =
      if suffix.InRange then some (suffix.multiple, suffix.power) else none := by
  cases suffix with
  | thousands step =>
      revert step
      decide
  | binary step =>
      revert step
      decide
  | exponent capital sign digits some_digit =>
      have bounds : -((Nat.pow 2 31 : Nat) : ℤ) = -(Int.pow 2 31) ∧
        ((Nat.pow 2 31 - 1 : Nat) : ℤ) = Int.pow 2 31 - 1 := by decide
      have marked : scale? (exponent capital sign digits some_digit).spelling =
          (readSigned (Nat.pow 2 31) (Nat.pow 2 31 - 1) (sign.spelling ++ spelled digits)).map
            fun exponent => (1, exponent) := by
        unfold scale?
        rw [suffixScale?_exponent]
        cases capital <;> rfl
      rw [marked, readSigned_spelling _ _ _ some_digit, bounds.1, bounds.2,
        apply_ite (Option.map _)]
      rfl

/-- What is read as a suffix is one. -/
theorem exists_of_scale? {characters : List Char} {scale : Nat × Int}
    (found : scale? characters = some scale) :
    ∃ suffix : QuantitySuffix, characters = suffix.spelling := by
  unfold scale? at found
  split at found
  next named =>
    have written : ∀ name ∈ namedSuffixes, ∃ suffix : Fin 10 ⊕ Fin 6,
        name.toList = suffix.elim (spelling ∘ thousands) (spelling ∘ binary) := by decide
    obtain ⟨step | step, same⟩ := written _ (mem_of_suffixScale? named)
    · exact ⟨.thousands step, by simpa using same⟩
    · exact ⟨.binary step, by simpa using same⟩
  next =>
    split at found
    next mark rest =>
      split at found
      next isMark =>
        obtain ⟨exponent, isExponent, -⟩ := Option.map_eq_some_iff.mp found
        obtain ⟨sign, digits, some_digit, rfl⟩ := exists_spelling_of_readSigned isExponent
        rcases isMark with rfl | rfl
        · exact ⟨.exponent false sign digits some_digit, rfl⟩
        · exact ⟨.exponent true sign digits some_digit, rfl⟩
      next => contradiction
    next => contradiction

/-- No suffix begins like a numeral. -/
theorem takeWhile_spelling (suffix : QuantitySuffix) :
    suffix.spelling.takeWhile isNumeral = [] ∧
      suffix.spelling.dropWhile isNumeral = suffix.spelling := by
  cases suffix with
  | thousands step =>
      revert step
      decide
  | binary step =>
      revert step
      decide
  | exponent capital sign digits some_digit =>
      have mark : isNumeral (if capital then 'E' else 'e') = false := by cases capital <;> decide
      simp [spelling, mark]

theorem visible_of_mem_spelling {suffix : QuantitySuffix} {character : Char}
    (member : character ∈ suffix.spelling) : isBlank character = false := by
  cases suffix with
  | thousands step =>
      have visible : ∀ step, (thousands step).spelling.all (!isBlank ·) = true := by decide
      simpa using List.all_eq_true.mp (visible step) character member
  | binary step =>
      have visible : ∀ step, (binary step).spelling.all (!isBlank ·) = true := by decide
      simpa using List.all_eq_true.mp (visible step) character member
  | exponent capital sign digits some_digit =>
      rcases List.mem_cons.mp member with rfl | member
      · cases capital <;> decide
      · rcases List.mem_append.mp member with signed | digit
        · have visible : sign.spelling.all (!isBlank ·) = true := by cases sign <;> decide
          simpa using List.all_eq_true.mp visible character signed
        · exact (isNumeral_of_mem_spelled digit).2.1

end QuantitySuffix

/-- The number that a quantity stands for. -/
def Quantity.value (quantity : Quantity) : ℚ :=
  quantity.mantissa * quantity.binary * 10 ^ quantity.exponent

/-- A quantity as it may be written. -/
structure WrittenQuantity where
  /-- Whether there is a plus sign in front. -/
  signed : Bool := false
  whole : List (Fin 10)
  /-- The digits behind the point, if there is one. -/
  fraction : Option (List (Fin 10)) := none
  suffix : QuantitySuffix
  some_digit : whole ++ fraction.getD [] ≠ []
deriving DecidableEq

namespace WrittenQuantity

variable {written : WrittenQuantity} {text : String} {read : Quantity}

/-- All digits before the suffix. -/
def digits (written : WrittenQuantity) : List (Fin 10) :=
  written.whole ++ written.fraction.getD []

/-- The number of digits behind the point. -/
def places (written : WrittenQuantity) : Nat :=
  (written.fraction.getD []).length

/-- The digits and the point as they are written. -/
def numeral (written : WrittenQuantity) : List Char :=
  spelled written.whole ++
    match written.fraction with
    | none => []
    | some digits => '.' :: spelled digits

/-- The quantity as it is written, without the sign. -/
def unsigned (written : WrittenQuantity) : List Char :=
  written.numeral ++ written.suffix.spelling

/-- The quantity as it is written. -/
def spelling (written : WrittenQuantity) : List Char :=
  if written.signed then '+' :: written.unsigned else written.unsigned

/-- The rational number that is written. -/
def value (written : WrittenQuantity) : ℚ :=
  numberOf written.digits / 10 ^ written.places * written.suffix.factor

/-- The digits form a number of 128 bits, and the count of those behind the point, the
exponent of ten and their difference are numbers of 32 bits with sign. -/
structure Fits (written : WrittenQuantity) : Prop where
  digits : numberOf written.digits < Nat.pow 2 128
  places : written.places < Nat.pow 2 31
  power : written.suffix.InRange
  exponent : -(Int.pow 2 31) ≤ written.suffix.power - written.places ∧
    written.suffix.power - written.places ≤ Int.pow 2 31 - 1

/-- The text consists of the written quantity and of blanks around it. -/
def IsIn (written : WrittenQuantity) (text : String) : Prop :=
  ∃ before after, text.toList = before ++ written.spelling ++ after ∧
    (∀ character ∈ before, isBlank character = true) ∧
    ∀ character ∈ after, isBlank character = true

/-- The parts of the quantity that is written. -/
def quantity (written : WrittenQuantity) : Quantity where
  mantissa := numberOf written.digits
  binary := written.suffix.multiple
  exponent := written.suffix.power - written.places

/-- The parts make up the number that is written. -/
theorem value_quantity (written : WrittenQuantity) : written.quantity.value = written.value := by
  have split : (10 : ℚ) ^ (written.suffix.power - (written.places : ℤ)) =
      10 ^ written.suffix.power / 10 ^ written.places := by
    rw [zpow_sub₀ (by norm_num), zpow_natCast]
  rw [Quantity.value, value, written.suffix.factor_eq, quantity, split]
  ring

theorem isNumeral_of_mem_numeral {character : Char} (member : character ∈ written.numeral) :
    isNumeral character = true ∧ isBlank character = false ∧ character ≠ '+' := by
  have digit {digits : List (Fin 10)} (member : character ∈ spelled digits) :
      isNumeral character = true ∧ isBlank character = false ∧ character ≠ '+' := by
    obtain ⟨numeral, visible, unsigned, -⟩ := isNumeral_of_mem_spelled member
    exact ⟨numeral, visible, unsigned⟩
  rcases List.mem_append.mp member with whole | rest
  · exact digit whole
  · cases pointed : written.fraction with
    | none => simp [pointed] at rest
    | some digits =>
        rw [pointed] at rest
        rcases List.mem_cons.mp rest with rfl | fraction
        · decide
        · exact digit fraction

theorem numeral_ne_nil (written : WrittenQuantity) : written.numeral ≠ [] := by
  intro empty
  obtain ⟨noWhole, rest⟩ := List.append_eq_nil_iff.mp empty
  apply written.some_digit
  cases pointed : written.fraction with
  | none => simpa [spelled] using noWhole
  | some digits => simp [pointed] at rest

/-- A numeral is split at its point. -/
theorem splitPoint_numeral (written : WrittenQuantity) :
    splitPoint written.numeral =
      (spelled written.whole, spelled (written.fraction.getD [])) := by
  have pointless : ∀ character ∈ spelled written.whole, (character != '.') = true := by
    intro character member
    simpa using (isNumeral_of_mem_spelled member).2.2.2
  rw [splitPoint, numeral, List.takeWhile_append_of_pos pointless,
    List.dropWhile_append_of_pos pointless]
  cases written.fraction with
  | none => simp [spelled]
  | some digits => simp

/-- Nothing but the sign is cut off a written quantity. -/
theorem body_eq (isIn : written.IsIn text) : body text.toList = written.unsigned := by
  obtain ⟨before, after, shape, blankBefore, blankAfter⟩ := isIn
  have visible : ∀ character ∈ written.unsigned, isBlank character = false := by
    intro character member
    rcases List.mem_append.mp member with numeral | suffix
    · exact (isNumeral_of_mem_numeral numeral).2.1
    · exact QuantitySuffix.visible_of_mem_spelling suffix
  have trimmed : trim text.toList = written.spelling := by
    rw [shape]
    apply trim_eq blankBefore _ blankAfter
    rw [spelling]
    split
    · intro character member
      rcases List.mem_cons.mp member with rfl | member
      · decide
      · exact visible character member
    · exact visible
  rw [body, trimmed, spelling]
  by_cases signed : written.signed = true
  · rw [if_pos signed]
    rfl
  · obtain ⟨first, rest, begins⟩ := List.exists_cons_of_ne_nil written.numeral_ne_nil
    have notPlus : first ≠ '+' :=
      (isNumeral_of_mem_numeral (begins ▸ List.mem_cons_self)).2.2
    rw [if_neg signed, unsigned, begins, List.cons_append]
    split
    next same => exact absurd (List.cons.inj same).1 notPlus
    next => rfl

/-- A written quantity is read exactly if it fits, and then part by part. -/
theorem parse_eq_some_iff (isIn : written.IsIn text) :
    parse text = some read ↔ written.Fits ∧ read = written.quantity := by
  have numeral : written.unsigned.takeWhile isNumeral = written.numeral := by
    rw [unsigned, List.takeWhile_append_of_pos fun _ member => (isNumeral_of_mem_numeral member).1,
      written.suffix.takeWhile_spelling.1, List.append_nil]
  have suffix : written.unsigned.dropWhile isNumeral = written.suffix.spelling := by
    rw [unsigned, List.dropWhile_append_of_pos fun _ member => (isNumeral_of_mem_numeral member).1,
      written.suffix.takeWhile_spelling.2]
  have digits : readDigits 0 (spelled written.whole ++ spelled (written.fraction.getD [])) =
      some (numberOf written.digits) := by
    rw [spelled, spelled, ← List.map_append, ← spelled, readDigits_spelled, Nat.zero_mul,
      Nat.zero_add, WrittenQuantity.digits]
  have filled : ((spelled written.whole).isEmpty &&
      (spelled (written.fraction.getD [])).isEmpty) = false := by
    have some_digit := written.some_digit
    rw [Bool.eq_false_iff]
    simpa [spelled] using some_digit
  simp only [parse, body_eq isIn, numeral, suffix, splitPoint_numeral, filled, digits,
    written.suffix.scale?_spelling]
  have places : (spelled (written.fraction.getD [])).length = written.places :=
    List.length_map _
  rw [places]
  by_cases inRange : written.suffix.InRange
  · simp only [if_pos inRange, Bool.false_eq_true, if_false]
    constructor
    · intro found
      split at found
      next fits =>
        cases found
        have upper := inRange.2
        refine ⟨⟨fits.1, fits.2.1, inRange, fits.2.2, ?_⟩, rfl⟩
        omega
      next => contradiction
    · rintro ⟨fits, rfl⟩
      rw [if_pos ⟨fits.digits, fits.places, fits.exponent.1⟩]
      rfl
  · simp only [if_neg inRange, Bool.false_eq_true, if_false]
    constructor
    · intro impossible
      contradiction
    · intro fits
      exact absurd fits.1.power inRange

/-- A numeral without a point is whole, and one with a point is made of the two parts. -/
theorem eq_of_splitPoint (numeral : List Char) :
    (numeral = (splitPoint numeral).1 ∧ (splitPoint numeral).2 = []) ∨
      numeral = (splitPoint numeral).1 ++ '.' :: (splitPoint numeral).2 := by
  induction numeral with
  | nil => exact .inl ⟨rfl, rfl⟩
  | cons first rest ih =>
      by_cases point : first = '.'
      · right
        simp [splitPoint, point]
      · simp only [splitPoint] at ih
        simpa [splitPoint, point] using ih

/-- What is read is a written quantity. -/
theorem exists_isIn_of_parse (found : parse text = some read) :
    ∃ written : WrittenQuantity, written.IsIn text := by
  obtain ⟨before, after, shape, blankBefore, blankAfter⟩ := exists_eq_trim text.toList
  have signed : ∃ signed : Bool, trim text.toList =
      if signed then '+' :: body text.toList else body text.toList := by
    rw [body]
    split
    next rest same => exact ⟨true, same⟩
    next => exact ⟨false, rfl⟩
  obtain ⟨signed, trimmed⟩ := signed
  simp only [parse] at found
  generalize body text.toList = characters at found trimmed
  split at found
  next => contradiction
  next filled =>
  split at found
  next mantissa binary power isMantissa isScale =>
    obtain ⟨suffix, isSuffix⟩ := QuantitySuffix.exists_of_scale? isScale
    obtain ⟨digits, areDigits⟩ := exists_spelled_of_readDigits isMantissa
    obtain ⟨whole, fraction, rfl, isWhole, isFraction⟩ :=
      List.map_eq_append_iff.mp areDigits.symm
    have some_digit : whole ++ fraction ≠ [] := by
      intro empty
      obtain ⟨rfl, rfl⟩ := List.append_eq_nil_iff.mp empty
      exact filled (by rw [← isWhole, ← isFraction]; rfl)
    have parts := List.takeWhile_append_dropWhile (p := isNumeral) (l := characters)
    rw [isSuffix] at parts
    rcases eq_of_splitPoint (characters.takeWhile isNumeral) with ⟨isNumeral, pointless⟩ | isNumeral
    · obtain rfl : fraction = [] := by simpa [pointless] using isFraction
      refine ⟨⟨signed, whole, none, suffix, some_digit⟩, before, after, ?_, blankBefore, blankAfter⟩
      rw [isNumeral, ← isWhole] at parts
      rw [shape, trimmed, ← parts]
      simp [spelling, unsigned, WrittenQuantity.numeral, spelled]
    · refine ⟨⟨signed, whole, some fraction, suffix, some_digit⟩, before, after, ?_, blankBefore,
        blankAfter⟩
      rw [isNumeral, ← isWhole, ← isFraction] at parts
      rw [shape, trimmed, ← parts]
      simp [spelling, unsigned, WrittenQuantity.numeral, spelled]
  next => contradiction

end WrittenQuantity

namespace Quantity

/-- The text is the writing of a number whose parts fit into their words. -/
def Denotes (text : String) (number : ℚ) : Prop :=
  ∃ written : WrittenQuantity, written.IsIn text ∧ written.Fits ∧ written.value = number

/-- What is read from a text is what the text denotes. -/
theorem denotes_of_parse {text : String} {quantity : Quantity}
    (read : parse text = some quantity) : Denotes text quantity.value := by
  obtain ⟨written, isIn⟩ := WrittenQuantity.exists_isIn_of_parse read
  obtain ⟨fits, rfl⟩ := (WrittenQuantity.parse_eq_some_iff isIn).mp read
  exact ⟨written, isIn, fits, written.value_quantity.symm⟩

/-- A text is read exactly if it is a quantity in writing that fits, and as the very number
that it denotes. -/
theorem parse_reads_what_is_written (text : String) :
    ((parse text).isSome = true ↔ ∃ written : WrittenQuantity, written.IsIn text ∧ written.Fits) ∧
      ∀ number, (parse text).map value = some number ↔ Denotes text number := by
  have reads {number : ℚ} : (parse text).map value = some number ↔ Denotes text number := by
    constructor
    · intro read
      obtain ⟨quantity, found, rfl⟩ := Option.map_eq_some_iff.mp read
      exact denotes_of_parse found
    · rintro ⟨written, isIn, fits, rfl⟩
      rw [(WrittenQuantity.parse_eq_some_iff isIn).mpr ⟨fits, rfl⟩, Option.map_some,
        written.value_quantity]
  refine ⟨?_, fun number => reads⟩
  rw [Option.isSome_iff_exists]
  constructor
  · rintro ⟨quantity, found⟩
    obtain ⟨written, isIn, fits, -⟩ := denotes_of_parse found
    exact ⟨written, isIn, fits⟩
  · rintro ⟨written, isIn, fits⟩
    exact ⟨_, (WrittenQuantity.parse_eq_some_iff isIn).mpr ⟨fits, rfl⟩⟩

end Quantity

end NodeGate
