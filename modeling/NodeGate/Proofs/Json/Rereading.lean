import NodeGate.Json.Parser
import NodeGate.Json.Printer
import NodeGate.Proofs.Json.Settled
import NodeGate.Proofs.Text.Decimal

/-!
# Reading written documents

A document is read back from its text if its members are in order, its numbers are within the
range of what can be read and it nests no deeper than the reader follows. Texts need no care:
whatever characters they consist of, what is written of them is read back.
-/

namespace NodeGate.Json

open Entries NodeGate.Text

variable {fuel depth : Nat} {rest : List Char}

section Texts

variable {character : Char}

theorem readText_escape {written : List Char}
    (read : readEscape (written ++ rest) = .ok (some character, rest)) :
    readText (fuel + 1) ('\\' :: written ++ rest) =
      (readText fuel rest).map fun (text, rest) => (text.map (character :: ·), rest) := by
  rw [List.cons_append, readText, if_neg (by decide), if_pos rfl, read]
  dsimp only
  cases readText fuel rest with
  | error fault => rfl
  | ok found =>
      obtain ⟨text, rest⟩ := found
      cases text <;> rfl

theorem readText_plain (unquoted : character ≠ '\"') (unescaped : character ≠ '\\')
    (visible : ¬character.toNat < 32) :
    readText (fuel + 1) (character :: rest) =
      (readText fuel rest).map fun (text, rest) => (text.map (character :: ·), rest) := by
  rw [readText, if_neg unquoted, if_neg unescaped, if_neg visible]
  cases readText fuel rest <;> rfl

/-- The two digits in which a control differs from others give its number. -/
theorem codeUnit?_control {number : Nat} (control : number < 32) :
    codeUnit? '0' '0' (hexDigitChar (number / 16)) (hexDigitChar (number % 16)) =
      some number := by
  revert number
  decide

theorem readEscape_control (control : character.toNat < 32) :
    readEscape (['u', '0', '0', hexDigitChar (character.toNat / 16),
      hexDigitChar (character.toNat % 16)] ++ rest) = .ok (some character, rest) := by
  have single : character.toNat < 0xd800 := by omega
  simp only [List.cons_append, List.nil_append, readEscape, codeUnit?_control control, pairUp,
    single, true_or, if_true, Char.ofNat_toNat]

/-- Each character is read back from how it stands in a text. -/
theorem readText_escapedChar :
    readText (fuel + 1) (escapedChar character ++ rest) =
      (readText fuel rest).map fun (text, rest) => (text.map (character :: ·), rest) := by
  have letter {name : Char} {number : Nat} (same : character.toNat = number)
      (read : readEscape ([name] ++ rest) = .ok (some (Char.ofNat number), rest)) :
      readEscape ([name] ++ rest) = .ok (some character, rest) := by
    rw [read, ← same, Char.ofNat_toNat]
  unfold escapedChar
  split_ifs with quote backslash newline carriageReturn tab backspace formFeed control
  · exact readText_escape (by rw [quote]; rfl)
  · exact readText_escape (by rw [backslash]; rfl)
  · exact readText_escape (by rw [newline]; rfl)
  · exact readText_escape (by rw [carriageReturn]; rfl)
  · exact readText_escape (by rw [tab]; rfl)
  · exact readText_escape (letter backspace rfl)
  · exact readText_escape (letter formFeed rfl)
  · exact readText_escape (readEscape_control control)
  · exact readText_plain quote backslash control

theorem length_escapedChar_pos (character : Char) : 0 < (escapedChar character).length := by
  unfold escapedChar
  split_ifs <;> simp

/-- A text is read back up to its closing quote. -/
theorem readText_flatMap (text : List Char) (enough : text.length < fuel) :
    readText fuel (text.flatMap escapedChar ++ '\"' :: rest) = .ok (some text, rest) := by
  induction text generalizing fuel with
  | nil =>
      obtain ⟨fuel, rfl⟩ := Nat.exists_eq_add_one.mpr enough
      simp [readText]
  | cons first more ih =>
      obtain ⟨fuel, rfl⟩ := Nat.exists_eq_add_one.mpr (Nat.zero_lt_of_lt enough)
      rw [List.flatMap_cons, List.append_assoc, readText_escapedChar,
        ih (Nat.lt_of_succ_lt_succ enough)]
      rfl

theorem length_le_flatMap (text : List Char) :
    text.length ≤ (text.flatMap escapedChar).length := by
  induction text with
  | nil => exact le_rfl
  | cons first more ih =>
      have positive := length_escapedChar_pos first
      rw [List.flatMap_cons, List.length_append, List.length_cons]
      omega

theorem length_renderText (text : List Char) :
    (renderText text).length = (text.flatMap escapedChar).length + 2 := by
  simp [renderText]

/-- A text is read back from between its quotes. -/
theorem readText_renderText (text : List Char) (enough : (renderText text).length ≤ fuel + 1) :
    readText fuel (text.flatMap escapedChar ++ '\"' :: rest) = .ok (some text, rest) := by
  have long := length_le_flatMap text
  rw [length_renderText] at enough
  exact readText_flatMap text (by omega)

end Texts

section Numbers

variable {value : Nat} {number : Int} {character : Char}

/-- No digit stands at the start of the text. -/
def NoDigitAhead (text : List Char) : Prop :=
  ∀ character, text.head? = some character → digitValue? character = none

/-- A number that stands in front of the text ends there. -/
structure EndsNumber (text : List Char) : Prop where
  no_digit : NoDigitAhead text
  no_point : text.head? ≠ some '.'
  no_exponent : text.head? ≠ some 'e' ∧ text.head? ≠ some 'E'

theorem endsNumber_nil : EndsNumber [] := by
  constructor <;> simp [NoDigitAhead]

theorem endsNumber_cons (separates : character ∈ [',', ']', '\x7d']) :
    EndsNumber (character :: rest) := by
  simp only [List.mem_cons, List.not_mem_nil, or_false] at separates
  rcases separates with rfl | rfl | rfl <;> constructor <;> simp [NoDigitAhead] <;> decide

/-- The digits of a numeral are read up to where they end. -/
theorem readRun_decimal (ends : NoDigitAhead rest) :
    readRun (decimal value ++ rest) = .ok (decimal value, rest) := by
  have digits : ∀ character ∈ decimal value, (digitValue? character).isSome = true :=
    fun _ member => isDigit_of_mem_decimal member
  have run : digitRun (decimal value ++ rest) = (decimal value, rest) := by
    rw [digitRun, List.takeWhile_append_of_pos digits, List.dropWhile_append_of_pos digits]
    cases rest with
    | nil => simp
    | cons first more => simp [ends first rfl]
  obtain ⟨first, more, shape⟩ := List.exists_cons_of_ne_nil (decimal_ne_nil value)
  rw [readRun, run, shape]

theorem runValue_decimal : runValue (decimal value) = value := by
  rw [runValue, readDigits_decimal, Option.getD_some]

/-- A numeral starts with a digit. -/
theorem exists_decimal_eq_cons (value : Nat) :
    ∃ digit more, digit < 10 ∧ decimal value = digitChar digit :: more := by
  obtain ⟨first, more, shape⟩ := List.exists_cons_of_ne_nil (decimal_ne_nil value)
  have member : first ∈ decimal value := shape ▸ List.mem_cons_self
  obtain ⟨digit, isDigit⟩ := Option.isSome_iff_exists.mp (isDigit_of_mem_decimal member)
  obtain ⟨small, rfl⟩ := digitValue?_eq_some_iff.mp isDigit
  exact ⟨digit, more, small, shape⟩

/-- A character that starts a number and nothing else. -/
structure StartsNumber (character : Char) : Prop where
  no_blank : isSpace character = false
  no_bracket : Bracket.ofOpening? character = none ∧ character ≠ ']'
  no_other : character ≠ '\"' ∧ character ≠ 'n' ∧ character ≠ 't' ∧ character ≠ 'f'

theorem startsNumber_minus : StartsNumber '-' := by
  constructor <;> decide

theorem startsNumber_digitChar {digit : Nat} (small : digit < 10) :
    StartsNumber (digitChar digit) := by
  constructor <;> revert digit <;> decide

/-- A digit is no sign. -/
theorem digitChar_ne_sign {digit : Nat} (small : digit < 10) :
    digitChar digit ≠ '+' ∧ digitChar digit ≠ '-' := by
  revert digit
  decide

/-- A numeral without a fraction is read with the exponent behind it. -/
theorem readUnsignedNumber_decimal {negative : Bool} {tail : List Char} {exponent : Option Int}
    (ends : NoDigitAhead tail) (no_point : tail.head? ≠ some '.')
    (read : readExponent tail = .ok (exponent, rest)) :
    readUnsignedNumber negative (decimal value ++ tail) =
      .ok (numberValue negative (decimal value) [] exponent, rest) := by
  have fraction : readFraction tail = .ok ([], tail) := by
    unfold readFraction
    split
    · simp at no_point
    · rfl
  rw [readUnsignedNumber, readRun_decimal ends]
  split
  next => contradiction
  next second more _ run =>
    -- Only zero starts with a zero, and it has one digit.
    simp only [Except.ok.injEq, Prod.mk.injEq] at run
    have zero : value = 0 := eq_zero_of_head?_decimal (by rw [run.1, List.head?_cons])
    rw [zero, decimal] at run
    simp at run
  next whole tail' _ run =>
    simp only [Except.ok.injEq, Prod.mk.injEq] at run
    obtain ⟨rfl, rfl⟩ := run
    rw [fraction]
    dsimp only
    rw [read]
    rfl

theorem readExponent_of_ends (ends : EndsNumber rest) : readExponent rest = .ok (none, rest) := by
  unfold readExponent
  split
  · simpa using ends.no_exponent
  · simpa using ends.no_exponent
  · rfl

/-- A whole number is read back as an exponent. -/
theorem readExponent_renderInt (ends : NoDigitAhead rest) :
    readExponent ('e' :: renderInt number ++ rest) = .ok (some number, rest) := by
  have run (sign : Int) : readExponent.digits sign (decimal number.natAbs ++ rest) =
      .ok (some (sign * number.natAbs), rest) := by
    rw [readExponent.digits, readRun_decimal ends, Except.map]
    dsimp only
    rw [runValue_decimal]
  rw [List.cons_append, readExponent, renderInt]
  split
  next negative =>
    rw [List.cons_append, readExponent.signed, run]
    congr 3
    omega
  next positive =>
    obtain ⟨digit, more, small, shape⟩ := exists_decimal_eq_cons number.natAbs
    have unsigned : readExponent.signed (decimal number.natAbs ++ rest) =
        readExponent.digits 1 (decimal number.natAbs ++ rest) := by
      obtain ⟨noPlus, noMinus⟩ := digitChar_ne_sign small
      rw [shape, List.cons_append, readExponent.signed]
      · exact fun _ same => noPlus (List.cons.inj same).1
      · exact fun _ same => noMinus (List.cons.inj same).1
    rw [unsigned, run]
    congr 3
    omega

/-- A written number is read behind its sign. -/
theorem readNumber_renderInt :
    readNumber (renderInt number ++ rest) =
      readUnsignedNumber (decide (number < 0)) (decimal number.natAbs ++ rest) := by
  rw [renderInt]
  split
  next negative => rw [List.cons_append, readNumber, decide_eq_true negative]
  next positive =>
    obtain ⟨digit, more, small, shape⟩ := exists_decimal_eq_cons number.natAbs
    rw [shape, List.cons_append, readNumber, decide_eq_false positive]
    exact fun _ same => (digitChar_ne_sign small).2 (List.cons.inj same).1

/-- A whole number of 64 bits, signed or not, is read back. -/
theorem readNumber_int (low : -2 ^ 63 ≤ number) (high : number < 2 ^ 64)
    (ends : EndsNumber rest) :
    readNumber (renderInt number ++ rest) = .ok (.int number, rest) := by
  rw [readNumber_renderInt, readUnsignedNumber_decimal ends.no_digit ends.no_point
    (readExponent_of_ends ends), numberValue, runValue_decimal]
  by_cases negative : number < 0
  · have below : number.natAbs ≤ 2 ^ 63 := by omega
    have bounded : 0 < number.natAbs ∧ number.natAbs ≤ Nat.pow 2 63 := ⟨by omega, below⟩
    rw [decide_eq_true negative, if_pos rfl, if_pos bounded]
    congr 3
    omega
  · have below : number.natAbs < 2 ^ 64 := by omega
    have bounded : number.natAbs < Nat.pow 2 64 := below
    rw [decide_eq_false negative, if_neg Bool.false_ne_true, if_pos bounded]
    congr 3
    omega

/-- A decimal fraction that a double can hold is read back. -/
theorem readNumber_dec {exponent : Int} (ranged : inDoubleRange number.natAbs exponent = true)
    (ends : EndsNumber rest) :
    readNumber (renderInt number ++ 'e' :: renderInt exponent ++ rest) =
      .ok (.dec number exponent, rest) := by
  have no_digit : NoDigitAhead ('e' :: renderInt exponent ++ rest) := by
    intro character first
    rw [List.cons_append, List.head?_cons, Option.some.injEq] at first
    rw [← first]
    decide
  have value : numberValue (decide (number < 0)) (decimal number.natAbs) [] (some exponent) =
      .dec number exponent := by
    have whole : numberValue (decide (number < 0)) (decimal number.natAbs) [] (some exponent) =
        decimalValue (decide (number < 0)) (runValue (decimal number.natAbs ++ []))
          (exponent - 0) :=
      rfl
    rw [whole, List.append_nil, runValue_decimal, Int.sub_zero, decimalValue, if_pos ranged]
    by_cases negative : number < 0
    · rw [decide_eq_true negative, if_pos rfl]
      congr 1
      omega
    · rw [decide_eq_false negative, if_neg Bool.false_ne_true]
      congr 1
      omega
  rw [List.append_assoc, readNumber_renderInt, readUnsignedNumber_decimal no_digit (by simp)
    (readExponent_renderInt ends.no_digit), value]

/-- A written number starts as only numbers do. -/
theorem exists_renderInt_eq_cons (number : Int) :
    ∃ first more, renderInt number = first :: more ∧ StartsNumber first := by
  rw [renderInt]
  split
  · exact ⟨_, _, rfl, startsNumber_minus⟩
  · obtain ⟨digit, more, small, shape⟩ := exists_decimal_eq_cons number.natAbs
    exact ⟨_, more, shape, startsNumber_digitChar small⟩

/-- What starts a number is read as one. -/
theorem readValue_number (starts : StartsNumber character) :
    readValue (fuel + 1) depth (character :: rest) = readNumber (character :: rest) := by
  obtain ⟨noQuote, noNull, noTrue, noFalse⟩ := starts.no_other
  simp [readValue, skipSpace, starts.no_blank, starts.no_bracket.1, readScalar, noQuote, noNull,
    noTrue, noFalse]

end Numbers

section Containers

/-- The value is read back from its text, with so many levels of nesting left, whatever
stands behind it. -/
def Rereads (depth : Nat) (json : Json) : Prop :=
  ∀ fuel rest, 4 * (render json).length ≤ fuel → EndsNumber rest →
    readValue fuel depth (render json ++ rest) = .ok (json, rest)

variable {json : Json} {items : List Json} {fields : List (String × Json)}

theorem skipSpace_cons {character : Char} (visible : isSpace character = false) :
    skipSpace (character :: rest) = character :: rest := by
  simp [skipSpace, visible]

/-- A value starts with a character that is neither a blank nor the end of an array. -/
theorem exists_render_eq_cons (json : Json) :
    ∃ first more, render json = first :: more ∧ isSpace first = false ∧ first ≠ ']' := by
  have number (value : Int) (tail : List Char) : ∃ first more,
      renderInt value ++ tail = first :: more ∧ isSpace first = false ∧ first ≠ ']' := by
    obtain ⟨first, more, shape, starts⟩ := exists_renderInt_eq_cons value
    exact ⟨first, more ++ tail, by rw [shape, List.cons_append], starts.no_blank,
      starts.no_bracket.2⟩
  cases json with
  | int value =>
      obtain ⟨first, more, shape, proper⟩ := number value []
      exact ⟨first, more, by rw [render, ← shape, List.append_nil], proper⟩
  | dec mantissa exponent =>
      obtain ⟨first, more, shape, proper⟩ := number mantissa ('e' :: renderInt exponent)
      exact ⟨first, more, by rw [render, shape], proper⟩
  | bool value => cases value <;> exact ⟨_, _, rfl, by decide, by decide⟩
  | _ => exact ⟨_, _, rfl, by decide, by decide⟩

theorem readValue_scalar {first : Char} (visible : isSpace first = false)
    (scalar : Bracket.ofOpening? first = none) :
    readValue (fuel + 1) depth (first :: rest) = readScalar fuel first rest := by
  simp only [readValue, skipSpace_cons visible, scalar]

/-- What suffices for a value is not nothing. -/
theorem exists_fuel (enough : 4 * (render json).length ≤ fuel) : ∃ less, fuel = less + 1 := by
  obtain ⟨first, more, shape, -⟩ := exists_render_eq_cons json
  rw [shape, List.length_cons] at enough
  exact Nat.exists_eq_add_one.mpr (by omega)

theorem rereads_null : Rereads depth .null := by
  intro fuel rest enough ends
  obtain ⟨fuel, rfl⟩ := exists_fuel enough
  exact readValue_scalar (by decide) (by decide)

theorem rereads_bool (value : Bool) : Rereads depth (.bool value) := by
  intro fuel rest enough ends
  obtain ⟨fuel, rfl⟩ := exists_fuel enough
  cases value <;> exact readValue_scalar (by decide) (by decide)

theorem rereads_str (text : String) : Rereads depth (.str text) := by
  intro fuel rest enough ends
  obtain ⟨fuel, rfl⟩ := exists_fuel enough
  rw [render] at enough
  have read : readText fuel (text.toList.flatMap escapedChar ++ '\"' :: rest) =
      .ok (some text.toList, rest) :=
    readText_renderText text.toList (by omega)
  have shape : render (.str text) ++ rest =
      '\"' :: (text.toList.flatMap escapedChar ++ '\"' :: rest) := by
    simp [render, renderText]
  rw [shape, readValue_scalar (by decide) (by decide), readScalar, if_pos rfl, read]
  simp [Except.map]

/-- What is read back as a number is read back as a value. -/
theorem rereads_number {number : Int} {tail : List Char}
    (shape : render json = renderInt number ++ tail)
    (read : ∀ rest, EndsNumber rest → readNumber (render json ++ rest) = .ok (json, rest)) :
    Rereads depth json := by
  intro fuel rest enough ends
  obtain ⟨first, more, written, starts⟩ := exists_renderInt_eq_cons number
  have whole : render json ++ rest = first :: (more ++ tail ++ rest) := by
    rw [shape, written, List.cons_append, List.cons_append]
  obtain ⟨fuel, rfl⟩ := exists_fuel enough
  rw [whole, readValue_number starts, ← whole]
  exact read rest ends

theorem rereads_int {number : Int} (low : -2 ^ 63 ≤ number) (high : number < 2 ^ 64) :
    Rereads depth (.int number) :=
  rereads_number (by rw [render, List.append_nil]) fun rest ends => by
    rw [render]
    exact readNumber_int low high ends

theorem rereads_dec {mantissa exponent : Int}
    (ranged : inDoubleRange mantissa.natAbs exponent = true) :
    Rereads depth (.dec mantissa exponent) :=
  rereads_number (by rw [render]) fun rest ends => by
    rw [render]
    exact readNumber_dec ranged ends

theorem renderItems_cons (item : Json) (items : List Json) :
    renderItems (item :: items) =
      render item ++ if items = [] then [] else ',' :: renderItems items := by
  cases items with
  | nil => rw [if_pos rfl, List.append_nil, renderItems]
  | cons next rest => rw [renderItems, if_neg (List.cons_ne_nil _ _)]

theorem renderMembers_cons (field : String × Json) (fields : List (String × Json)) :
    renderMembers (field :: fields) =
      renderMember field ++ if fields = [] then [] else ',' :: renderMembers fields := by
  cases fields with
  | nil => rw [if_pos rfl, List.append_nil, renderMembers]
  | cons next rest => rw [renderMembers, if_neg (List.cons_ne_nil _ _)]

/-- Items that are read back are read back up to the end of their array. -/
theorem readItems_renderItems (filled : items ≠ [])
    (each : ∀ item ∈ items, Rereads depth item)
    (enough : 4 * (renderItems items).length < fuel) :
    readItems fuel depth (renderItems items ++ ']' :: rest) = .ok (items, rest) := by
  induction items generalizing fuel with
  | nil => contradiction
  | cons item others ih =>
      obtain ⟨fuel, rfl⟩ := Nat.exists_eq_add_one.mpr (Nat.zero_lt_of_lt enough)
      rw [renderItems_cons, List.length_append] at enough
      have first (tail : List Char) (ends : EndsNumber tail) :
          readValue fuel depth (render item ++ tail) = .ok (item, tail) :=
        each item (.head _) fuel tail (by omega) ends
      rw [renderItems_cons, List.append_assoc, readItems]
      by_cases last : others = []
      · rw [if_pos last, List.nil_append, first _ (endsNumber_cons (by simp))]
        simp [skipSpace_cons (show isSpace ']' = false by decide), last]
      · rw [if_neg last] at enough ⊢
        rw [List.cons_append, first _ (endsNumber_cons (by simp))]
        have more := ih last (fun other member => each other (.tail _ member))
          (show 4 * (renderItems others).length < fuel by simp at enough; omega)
        simp [skipSpace_cons (show isSpace ',' = false by decide), more, Except.map]

theorem readArray_renderItems (each : ∀ item ∈ items, Rereads depth item)
    (enough : 4 * (renderItems items).length < fuel) :
    readArray (fuel + 1) depth (renderItems items ++ ']' :: rest) = .ok (.arr items, rest) := by
  cases items with
  | nil =>
      rw [renderItems, List.nil_append, readArray, skipSpace_cons (by decide)]
      rfl
  | cons item others =>
      obtain ⟨first, more, shape, visible, going⟩ := exists_render_eq_cons item
      have read : readItems fuel depth (renderItems (item :: others) ++ ']' :: rest) =
          .ok (item :: others, rest) :=
        readItems_renderItems (List.cons_ne_nil item others) each enough
      rw [renderItems_cons, shape, List.cons_append, List.cons_append] at read ⊢
      simp only [readArray, skipSpace_cons visible, going, if_false, read, Except.map]

/-- An array of values that are read back is read back one level further out. -/
theorem rereads_arr (each : ∀ item ∈ items, Rereads depth item) :
    Rereads (depth + 1) (.arr items) := by
  intro fuel rest enough ends
  have shape : render (.arr items) ++ rest = '[' :: (renderItems items ++ ']' :: rest) := by
    simp [render]
  simp only [render, List.length_append, List.length_cons, List.length_nil] at enough
  obtain ⟨fuel, rfl⟩ := Nat.exists_eq_add_of_le' (show 2 ≤ fuel by omega)
  have opening : Bracket.ofOpening? '[' = some .square := by decide
  rw [shape, readValue, skipSpace_cons (by decide)]
  simp only [opening]
  exact readArray_renderItems each (by omega)

/-- A member whose value is read back is read back. -/
theorem readMember_renderMember {field : String × Json} (back : Rereads depth field.2)
    (enough : 4 * (renderMember field).length < fuel) (ends : EndsNumber rest) :
    readMember fuel depth (renderMember field ++ rest) = .ok (some field, rest) := by
  obtain ⟨name, value⟩ := field
  obtain ⟨fuel, rfl⟩ := Nat.exists_eq_add_one.mpr (Nat.zero_lt_of_lt enough)
  simp only [renderMember, List.length_append, List.length_cons] at enough
  have shape : renderMember (name, value) ++ rest = '\"' ::
      (name.toList.flatMap escapedChar ++ '\"' :: ':' :: (render value ++ rest)) := by
    simp [renderMember, renderText]
  have name_read : readText fuel
      (name.toList.flatMap escapedChar ++ '\"' :: ':' :: (render value ++ rest)) =
        .ok (some name.toList, ':' :: (render value ++ rest)) :=
    readText_renderText name.toList (by omega)
  have value_read : readValue fuel depth (render value ++ rest) = .ok (value, rest) :=
    back fuel rest (show 4 * (render value).length ≤ fuel by omega) ends
  rw [shape, readMember, skipSpace_cons (by decide)]
  simp only [if_true, name_read, skipSpace_cons (show isSpace ':' = false by decide), value_read,
    Except.map, Option.map_some, String.ofList_toList]

/-- Members whose values are read back are read back up to the end of their object. -/
theorem readMembers_renderMembers (filled : fields ≠ [])
    (each : ∀ field ∈ fields, Rereads depth field.2)
    (enough : 4 * (renderMembers fields).length + 1 < fuel) :
    readMembers fuel depth (renderMembers fields ++ '\x7d' :: rest) =
      .ok (some fields, rest) := by
  induction fields generalizing fuel with
  | nil => contradiction
  | cons field others ih =>
      obtain ⟨fuel, rfl⟩ := Nat.exists_eq_add_one.mpr (Nat.zero_lt_of_lt enough)
      rw [renderMembers_cons, List.length_append] at enough
      have first (tail : List Char) (ends : EndsNumber tail) :
          readMember fuel depth (renderMember field ++ tail) = .ok (some field, tail) :=
        readMember_renderMember (each field (.head _)) (by omega) ends
      rw [renderMembers_cons, List.append_assoc, readMembers]
      by_cases last : others = []
      · rw [if_pos last, List.nil_append, first _ (endsNumber_cons (by simp))]
        simp [skipSpace_cons (show isSpace '\x7d' = false by decide), last]
      · rw [if_neg last] at enough ⊢
        rw [List.cons_append, first _ (endsNumber_cons (by simp))]
        have more := ih last (fun other member => each other (.tail _ member))
          (show 4 * (renderMembers others).length + 1 < fuel by simp at enough; omega)
        simp [skipSpace_cons (show isSpace ',' = false by decide), more, Except.map]

theorem readObject_renderMembers (each : ∀ field ∈ fields, Rereads depth field.2)
    (enough : 4 * (renderMembers fields).length + 1 < fuel) :
    readObject (fuel + 1) depth (renderMembers fields ++ '\x7d' :: rest) =
      .ok (.obj fields, rest) := by
  cases fields with
  | nil =>
      rw [renderMembers, List.nil_append, readObject, skipSpace_cons (by decide)]
      rfl
  | cons field others =>
      have read : readMembers fuel depth (renderMembers (field :: others) ++ '\x7d' :: rest) =
          .ok (some (field :: others), rest) :=
        readMembers_renderMembers (List.cons_ne_nil field others) each enough
      rw [renderMembers_cons, renderMember, renderText, List.cons_append, List.cons_append,
        List.cons_append, List.cons_append] at read ⊢
      simp only [readObject, skipSpace_cons (show isSpace '\"' = false by decide), read, Except.map]
      rfl

/-- An object of values that are read back is read back one level further out. -/
theorem rereads_obj (each : ∀ field ∈ fields, Rereads depth field.2) :
    Rereads (depth + 1) (.obj fields) := by
  intro fuel rest enough ends
  have shape : render (.obj fields) ++ rest =
      '\x7b' :: (renderMembers fields ++ '\x7d' :: rest) := by
    simp [render]
  simp only [render, List.length_append, List.length_cons, List.length_nil] at enough
  obtain ⟨fuel, rfl⟩ := Nat.exists_eq_add_of_le' (show 2 ≤ fuel by omega)
  have opening : Bracket.ofOpening? '\x7b' = some .curly := by decide
  rw [shape, readValue, skipSpace_cons (by decide)]
  simp only [opening]
  exact readObject_renderMembers each (by omega)

end Containers

/-- The document is read back from its text: so many levels of nesting suffice for it, its
numbers are within range, and the members of its objects are in order. -/
inductive Legible : Nat → Json → Prop where
  | null {depth : Nat} : Legible depth .null
  | bool {depth : Nat} (value : Bool) : Legible depth (.bool value)
  | int {depth : Nat} {value : Int} (low : -2 ^ 63 ≤ value) (high : value < 2 ^ 64) :
    Legible depth (.int value)
  | dec {depth : Nat} {mantissa exponent : Int}
    (ranged : inDoubleRange mantissa.natAbs exponent = true) :
    Legible depth (.dec mantissa exponent)
  | str {depth : Nat} (text : String) : Legible depth (.str text)
  | arr {depth : Nat} {items : List Json} (each : ∀ item ∈ items, Legible depth item) :
    Legible (depth + 1) (.arr items)
  | obj {depth : Nat} {fields : List (String × Json)} (sorted : Sorted fields)
    (each : ∀ field ∈ fields, Legible depth field.2) : Legible (depth + 1) (.obj fields)

namespace Legible

variable {json : Json}

/-- More levels suffice as well. -/
theorem mono {more : Nat} (legible : Legible depth json) (deeper : depth ≤ more) :
    Legible more json := by
  induction legible generalizing more with
  | null => exact .null
  | bool value => exact .bool value
  | int low high => exact .int low high
  | dec ranged => exact .dec ranged
  | str text => exact .str text
  | arr each ih =>
      obtain ⟨more, rfl⟩ := Nat.exists_eq_add_of_le' (Nat.one_le_of_lt deeper)
      exact .arr fun item member => ih item member (Nat.le_of_succ_le_succ deeper)
  | obj sorted each ih =>
      obtain ⟨more, rfl⟩ := Nat.exists_eq_add_of_le' (Nat.one_le_of_lt deeper)
      exact .obj sorted fun field member => ih field member (Nat.le_of_succ_le_succ deeper)

theorem rereads (legible : Legible depth json) : Rereads depth json := by
  induction legible with
  | null => exact rereads_null
  | bool value => exact rereads_bool value
  | int low high => exact rereads_int low high
  | dec ranged => exact rereads_dec ranged
  | str text => exact rereads_str text
  | arr each ih => exact rereads_arr ih
  | obj sorted each ih => exact rereads_obj ih

/-- A legible document stands for itself. -/
theorem settled?_eq (legible : Legible depth json) : json.settled? = some json := by
  induction legible with
  | null => rfl
  | bool value => rfl
  | int low high => rfl
  | dec ranged => rfl
  | str text => rfl
  | @arr _ items each ih =>
      have settled : settledItems? items = some items := by
        clear each
        induction items with
        | nil => rfl
        | cons item others rest_ih =>
            have more := rest_ih fun other member => ih other (.tail _ member)
            simp [settledItems?, ih item (.head _), more]
      rw [settled?, settled, Option.map_some]
  | @obj _ fields sorted each ih =>
      have settled : settledMembers? fields = some fields := by
        clear each sorted
        induction fields with
        | nil => rfl
        | cons field others rest_ih =>
            have more := rest_ih fun other member => ih other (.tail _ member)
            simp [settledMembers?, ih field (.head _), more]
      rw [settled?, settled, Option.map_some, ofPairs_of_sorted sorted]

/-- A document that nests no deeper than the reader follows is read back from its text. -/
theorem parse_text (legible : Legible 127 json) : parse (text json) = some json := by
  have characters : (text json).toList = render json := String.toList_ofList
  have whole : readValue (4 * (render json).length + 4) 127 (render json) = .ok (json, []) := by
    have back := legible.rereads (4 * (render json).length + 4) [] (by omega) endsNumber_nil
    rwa [List.append_nil] at back
  have read : read (text json) = .ok json := by
    rw [Json.read, characters]
    simp only [whole]
    rfl
  rw [parse, read]
  exact legible.settled?_eq

end Legible

end NodeGate.Json
