import NodeGate.Proofs.Text.Decimal
import NodeGate.Time.Instant

/-!
# Written instants

An instant that lies in the calendar is read back from its text, and one that was read lies
in the calendar. Text in whole seconds stands for the start of the second.
-/

namespace NodeGate

namespace Text

variable {digits : List (Fin 10)} {rest : List Char} {width value : Nat}

theorem length_spelled (digits : List (Fin 10)) : (spelled digits).length = digits.length :=
  List.length_map _

theorem numberOf_lt (digits : List (Fin 10)) : numberOf digits < 10 ^ digits.length := by
  induction digits with
  | nil => decide
  | cons digit rest ih =>
      have bounded : digit.val * 10 ^ rest.length ≤ 9 * 10 ^ rest.length :=
        Nat.mul_le_mul_right _ (Nat.le_of_lt_succ digit.isLt)
      rw [numberOf_cons, List.length_cons, Nat.pow_succ]
      omega

theorem length_decimal_le (wide : 0 < width) (small : value < 10 ^ width) :
    (decimal value).length ≤ width := by
  induction value using decimal.induct generalizing width with
  | case1 value single =>
      rw [decimal, if_pos single]
      exact wide
  | case2 value large ih =>
      have narrower : value / 10 < 10 ^ (width - 1) := by
        refine Nat.div_lt_of_lt_mul ?_
        rwa [← Nat.pow_succ', Nat.succ_eq_add_one, Nat.sub_add_cancel wide]
      have several : 0 < width - 1 := by
        rcases Nat.eq_zero_or_pos (width - 1) with none | some
        · rw [none] at narrower
          omega
        · exact some
      rw [decimal, if_neg large, List.length_append, List.length_singleton]
      have fewer := ih several narrower
      omega

theorem exists_spelled_decimal (value : Nat) :
    ∃ digits, decimal value = spelled digits ∧ numberOf digits = value := by
  have read := readDigits_decimal value
  obtain ⟨digits, same⟩ := exists_spelled_of_readDigits read
  rw [same, readDigits_spelled] at read
  exact ⟨digits, same, by simpa using read⟩

theorem numberOf_replicate_append (count : Nat) (digits : List (Fin 10)) :
    numberOf (List.replicate count 0 ++ digits) = numberOf digits := by
  induction count with
  | zero => rfl
  | succ count ih =>
      rw [List.replicate_succ, List.cons_append, numberOf_cons, ih]
      simp

/-- A padded numeral consists of the digits of its number, as many as wanted if the number is
small enough. -/
theorem exists_spelled_padded (wide : 0 < width) (value : Nat) :
    ∃ digits, padded width value = spelled digits ∧ numberOf digits = value ∧ digits ≠ [] ∧
      (value < 10 ^ width → digits.length = width) := by
  obtain ⟨digits, same, number⟩ := exists_spelled_decimal value
  have filled : digits ≠ [] := by
    rintro rfl
    exact decimal_ne_nil value same
  refine ⟨List.replicate (width - (decimal value).length) 0 ++ digits, ?_,
    (numberOf_replicate_append _ _).trans number, by simp [filled], fun small => ?_⟩
  · rw [padded, spelled, List.map_append, List.map_replicate, same]
    rfl
  · have short := length_decimal_le wide small
    rw [List.length_append, List.length_replicate, ← length_spelled digits, ← same]
    omega

theorem isSome_digitValue?_of_mem {character : Char} (member : character ∈ spelled digits) :
    (digitValue? character).isSome = true := by
  obtain ⟨digit, -, rfl⟩ := List.mem_map.mp member
  rw [digitValue?_digitChar digit.isLt, Option.isSome_some]

theorem trimLeft_cons {character : Char} (visible : isBlank character = false) :
    trimLeft (character :: rest) = character :: rest := by
  rw [trimLeft, List.dropWhile_cons_of_neg (by simp [visible])]

theorem trimLeft_spelled (filled : digits ≠ []) :
    trimLeft (spelled digits ++ rest) = spelled digits ++ rest := by
  have visible : ∀ digit : Fin 10, isBlank (digitChar digit) = false := by decide
  obtain ⟨first, others, shape⟩ := spelled_eq_cons filled
  rw [shape, List.cons_append, trimLeft_cons (visible first)]

end Text

namespace Date

variable {date : Date}

theorem daysInMonth_le (year : Int) (month : Nat) : daysInMonth year month ≤ 31 := by
  unfold daysInMonth
  split <;> first | decide | (split <;> decide)

theorem daysInMonth_pos (year : Int) {month : Nat} (low : 1 ≤ month) (high : month ≤ 12) :
    0 < daysInMonth year month := by
  unfold daysInMonth
  split
  any_goals decide
  next => split <;> decide
  next => grind

/-- There are twelve months. -/
theorem month_of_isValid (valid : date.isValid = true) : 1 ≤ date.month ∧ date.month ≤ 12 := by
  obtain ⟨year, month, day⟩ := date
  simp only [isValid, Bool.and_eq_true, decide_eq_true_eq] at valid
  have some_day : 0 < daysInMonth year month := valid.1.trans valid.2
  unfold daysInMonth at some_day
  split at some_day <;> simp_all

/-- Neither months nor days have more than two digits. -/
theorem lt_hundred (valid : date.isValid = true) : date.month < 100 ∧ date.day < 100 := by
  have month := month_of_isValid valid
  have most := daysInMonth_le date.year date.month
  simp only [isValid, Bool.and_eq_true, decide_eq_true_eq] at valid
  omega

theorem next_isValid (valid : date.isValid = true) : date.next.isValid = true := by
  have month := month_of_isValid valid
  rw [next]
  split
  next within =>
    simp only [isValid, Bool.and_eq_true, decide_eq_true_eq] at valid ⊢
    omega
  next =>
    split
    next =>
      have some_day : 1 ≤ daysInMonth date.year (date.month + 1) :=
        daysInMonth_pos date.year (by omega) (by omega)
      simpa [isValid] using some_day
    next => rfl

theorem previous_isValid (valid : date.isValid = true) : date.previous.isValid = true := by
  have month := month_of_isValid valid
  rw [previous]
  split
  next within =>
    simp only [isValid, Bool.and_eq_true, decide_eq_true_eq] at valid ⊢
    omega
  next =>
    split
    next =>
      have some_day : 1 ≤ daysInMonth date.year (date.month - 1) :=
        daysInMonth_pos date.year (by omega) (by omega)
      simpa [isValid] using some_day
    next => rfl

end Date

open Text

namespace Instant

variable {digits : List (Fin 10)} {rest : List Char} {most width value : Nat}

/-- No more digits follow. -/
def Stops (rest : List Char) : Prop :=
  rest.takeWhile (fun c => (digitValue? c).isSome) = []

theorem stops_cons {character : Char} (noDigit : digitValue? character = none) :
    Stops (character :: rest) := by
  rw [Stops, List.takeWhile_cons_of_neg (by simp [noDigit])]

theorem takeWhile_spelled (stops : Stops rest) :
    (spelled digits ++ rest).takeWhile (fun c => (digitValue? c).isSome) = spelled digits := by
  rw [List.takeWhile_append_of_pos fun _ => isSome_digitValue?_of_mem, stops, List.append_nil]

/-- Digits are read up to the wanted number of them, or up to what is no digit. -/
theorem readUpTo_spelled (filled : digits ≠ [])
    (ends : digits.length = most ∨ digits.length ≤ most ∧ Stops rest) :
    readUpTo most (spelled digits ++ rest) = some (numberOf digits, rest) := by
  have run : ((spelled digits ++ rest).takeWhile fun c => (digitValue? c).isSome).take most =
      spelled digits := by
    rcases ends with exact | ⟨fits, stops⟩
    · rw [List.takeWhile_append_of_pos fun _ => isSome_digitValue?_of_mem]
      exact List.take_left' ((length_spelled digits).trans exact)
    · rw [takeWhile_spelled stops]
      exact List.take_of_length_le ((length_spelled digits).le.trans fits)
  have read := readDigits_spelled 0 digits
  rw [Nat.zero_mul, Nat.zero_add] at read
  obtain ⟨first, others, shape⟩ := spelled_eq_cons filled
  rw [readUpTo, run]
  split
  next empty => rw [shape] at empty; contradiction
  next =>
    rw [read, Option.map_some, List.drop_left]

theorem readPair_padded (small : value < 100) :
    readPair (padded 2 value ++ rest) = some (value, rest) := by
  obtain ⟨digits, same, number, filled, two⟩ := @exists_spelled_padded 2 (by decide) value
  rw [readPair, same, trimLeft_spelled filled, readUpTo_spelled filled (.inl (two small)), number]

theorem readMark_cons {mark : Char} (visible : isBlank mark = false) :
    readMark mark (mark :: rest) = some rest := by
  simp [readMark, trimLeft_cons visible]

/-- A year is read back, whatever its sign and length. -/
theorem readYear_yearDigits (year : Int) (stops : Stops rest) :
    readYear (yearDigits year ++ rest) = some (year, rest) := by
  have apart : ∀ digit : Fin 10, digitChar digit ≠ '+' ∧ digitChar digit ≠ '-' := by decide
  rw [yearDigits]
  by_cases usual : 0 ≤ year ∧ year ≤ 9999
  · obtain ⟨digits, same, number, filled, four⟩ :=
      @exists_spelled_padded 4 (by decide) year.toNat
    obtain ⟨first, others, shape⟩ := spelled_eq_cons filled
    have small : year.toNat < 10 ^ 4 := by omega
    rw [if_pos usual, readYear, same, trimLeft_spelled filled]
    split
    next marked => simp [shape, apart first] at marked
    next marked => simp [shape, apart first] at marked
    next =>
      rw [readUpTo_spelled filled (.inl (four small)), number, Option.map_some]
      simp only [Option.some.injEq, Prod.mk.injEq, and_true]
      omega
  · obtain ⟨digits, same, number, filled, -⟩ :=
      @exists_spelled_padded 4 (by decide) year.natAbs
    have all : readAll (spelled digits ++ rest) = some (year.natAbs, rest) := by
      rw [readAll, readUpTo_spelled filled (.inr ⟨?_, stops⟩), number]
      rw [List.length_append, length_spelled]
      exact Nat.le_add_right _ _
    rw [if_neg usual, List.cons_append, same, readYear]
    by_cases negative : year < 0
    · rw [if_pos negative, trimLeft_cons (by decide)]
      simp only [all, Option.map_some, Option.some.injEq, Prod.mk.injEq, and_true]
      omega
    · rw [if_neg negative, trimLeft_cons (by decide)]
      simp only [all, Option.map_some, Option.some.injEq, Prod.mk.injEq, and_true]
      omega

theorem readNanosecond_padded (wide : 0 < width) (narrow : width ≤ 9)
    (small : value < 10 ^ width) (stops : Stops rest) :
    readNanosecond ('.' :: padded width value ++ rest) =
      some (value * 10 ^ (9 - width), rest) := by
  obtain ⟨digits, same, number, filled, exact⟩ := exists_spelled_padded wide value
  have long := exact small
  rw [List.cons_append, same, readNanosecond, takeWhile_spelled stops,
    readUpTo_spelled filled (.inr ⟨long.trans_le narrow, stops⟩), List.drop_left,
    List.take_of_length_le (by rw [length_spelled]; omega), length_spelled, long, number]
  rfl

/-- Every fraction of a second is read back. -/
theorem readNanosecond_fraction {nanosecond : Nat} (small : nanosecond < 10 ^ 9) :
    readNanosecond (fraction nanosecond ++ ['Z']) = some (nanosecond, ['Z']) := by
  have stops : Stops ['Z'] := stops_cons rfl
  rw [fraction]
  split
  next none =>
    rw [none]
    rfl
  next =>
    split
    next whole =>
      have parts : nanosecond / 1000000 * 10 ^ (9 - 3) = nanosecond :=
        Nat.div_mul_cancel (Nat.dvd_of_mod_eq_zero whole)
      rw [@readNanosecond_padded _ 3 _ (by decide) (by decide) (by omega) stops, parts]
    next =>
      split
      next whole =>
        have parts : nanosecond / 1000 * 10 ^ (9 - 6) = nanosecond :=
          Nat.div_mul_cancel (Nat.dvd_of_mod_eq_zero whole)
        rw [@readNanosecond_padded _ 6 _ (by decide) (by decide) (by omega) stops, parts]
      next =>
        have parts : nanosecond * 10 ^ (9 - 9) = nanosecond := Nat.mul_one nanosecond
        rw [@readNanosecond_padded _ 9 _ (by decide) (by decide) small stops, parts]

/-- The instant lies in the calendar, within the years that instants may fall into, at a time
of day that a clock may show. -/
structure IsProper (instant : Instant) : Prop where
  isValid : instant.date.isValid = true
  inRange : instant.date.inRange = true
  hour_lt : instant.hour < 24
  minute_lt : instant.minute < 60
  second_le : instant.second ≤ 60
  nanosecond_lt : instant.nanosecond < 10 ^ 9

theorem ofLocal_zero {instant : Instant} (hour : instant.hour < 24) (minute : instant.minute < 60) :
    ofLocal 0 instant = instant := by
  obtain ⟨date, hour, minute, second, nanosecond⟩ := instant
  dsimp only at hour minute
  rw [ofLocal]
  dsimp only
  rw [if_neg (by omega), if_pos (by omega)]
  congr 1 <;> omega

/-- Year, month and day are read back. -/
theorem readDate_written {date : Date} (valid : date.isValid = true) :
    readDate (yearDigits date.year ++ '-' :: (padded 2 date.month ++
      '-' :: (padded 2 date.day ++ rest))) = some (date, rest) := by
  obtain ⟨month, day⟩ := Date.lt_hundred valid
  have hyphen : isBlank '-' = false := by decide
  rw [readDate, readYear_yearDigits _ (stops_cons rfl)]
  simp [readMark_cons hyphen, readPair_padded month, readPair_padded day]

/-- The text of an instant in the calendar is read back, with whatever fraction of the second
is written. -/
theorem read_stem {instant : Instant} {nanosecond : Nat} (proper : instant.IsProper)
    (small : nanosecond < 10 ^ 9) :
    read (instant.stem ++ fraction nanosecond ++ ['Z']) =
      some ({ instant with nanosecond }, []) := by
  have hour : instant.hour < 100 := proper.hour_lt.trans (by decide)
  have minute : instant.minute < 100 := proper.minute_lt.trans (by decide)
  have second : instant.second < 100 := proper.second_le.trans_lt (by decide)
  have colon : isBlank ':' = false := by decide
  have universal : readOffset ['Z'] = some (0, []) := rfl
  have here := @ofLocal_zero { instant with nanosecond } proper.hour_lt proper.minute_lt
  have written : instant.stem ++ fraction nanosecond ++ ['Z'] =
      yearDigits instant.date.year ++ '-' :: (padded 2 instant.date.month ++
        '-' :: (padded 2 instant.date.day ++ 'T' :: (padded 2 instant.hour ++
          ':' :: (padded 2 instant.minute ++ ':' :: (padded 2 instant.second ++
            (fraction nanosecond ++ ['Z'])))))) := by
    simp [stem]
  rw [written, read, readDate_written proper.isValid]
  simp [readPair_padded hour, readPair_padded minute, readPair_padded second, readMark_cons colon,
    readNanosecond_fraction small, universal, proper.isValid, proper.inRange, proper.hour_lt,
    proper.minute_lt, proper.second_le, here]

theorem parse_text {instant : Instant} (proper : instant.IsProper) :
    parse instant.text = some instant := by
  rw [parse, text, String.toList_ofList, read_stem proper proper.nanosecond_lt]
  rfl

/-- Text in whole seconds is read as the start of the second. -/
theorem parse_textInSeconds {instant : Instant} (proper : instant.IsProper) :
    parse instant.textInSeconds = some instant.wholeSecond := by
  have written := @read_stem instant 0 proper (by decide)
  rw [fraction, if_pos rfl, List.append_nil] at written
  rw [parse, textInSeconds, String.toList_ofList, written]
  rfl

/-- What is read is no larger than its digits allow. -/
theorem lt_of_readUpTo {text : List Char} (found : readUpTo most text = some (value, rest)) :
    value < 10 ^ ((text.takeWhile fun c => (digitValue? c).isSome).take most).length := by
  rw [readUpTo] at found
  split at found
  next => contradiction
  next =>
    obtain ⟨number, read, same⟩ := Option.map_eq_some_iff.mp found
    obtain ⟨digits, shape⟩ := exists_spelled_of_readDigits read
    rw [shape, readDigits_spelled, Nat.zero_mul, Nat.zero_add, Option.some.injEq] at read
    obtain ⟨rfl, -⟩ := Prod.mk.inj same
    rw [shape, length_spelled, ← read]
    exact numberOf_lt digits

theorem lt_of_readNanosecond {text : List Char}
    (found : readNanosecond text = some (value, rest)) : value < 10 ^ 9 := by
  unfold readNanosecond at found
  split at found
  next after =>
    obtain ⟨⟨number, _⟩, read, same⟩ := Option.bind_eq_some_iff.mp found
    obtain ⟨rfl, -⟩ := Prod.mk.inj (Option.some.inj same)
    have small := lt_of_readUpTo read
    have few := List.length_take_le 9 (after.takeWhile fun c => (digitValue? c).isSome)
    calc number * 10 ^ (9 - _) < 10 ^ _ * 10 ^ (9 - _) :=
          Nat.mul_lt_mul_of_pos_right small (Nat.pow_pos (by decide))
      _ = 10 ^ 9 := by rw [← Nat.pow_add, Nat.add_sub_cancel' few]
  next =>
    obtain ⟨rfl, -⟩ := Prod.mk.inj (Option.some.inj found)
    decide

/-- A time of day stays one when it is taken to universal time, and the day is the same or a
neighbour. -/
theorem isProper_ofLocal {offset : Int} {here : Instant} (valid : here.date.isValid = true)
    (second : here.second ≤ 60) (nanosecond : here.nanosecond < 10 ^ 9)
    (inRange : (ofLocal offset here).date.inRange = true) : (ofLocal offset here).IsProper where
  isValid := by
    rw [ofLocal]
    dsimp only
    split
    · exact Date.previous_isValid valid
    · split
      · exact valid
      · exact Date.next_isValid valid
  inRange := inRange
  hour_lt := by
    rw [ofLocal]
    dsimp only
    omega
  minute_lt := Nat.mod_lt _ (by decide)
  second_le := second
  nanosecond_lt := nanosecond

theorem isProper_of_read {text : List Char} {instant : Instant}
    (found : read text = some (instant, rest)) : instant.IsProper := by
  obtain ⟨⟨date, after⟩, -, found⟩ := Option.bind_eq_some_iff.mp found
  dsimp only at found
  split at found
  next =>
    split at found
    next =>
      simp only [Option.bind_eq_bind, Option.bind_some, Option.bind_eq_some_iff] at found
      obtain ⟨⟨hour, _⟩, -, _, -, ⟨minute, _⟩, -, _, -, ⟨second, _⟩, -, ⟨nanosecond, _⟩, fraction,
        ⟨offset, _⟩, -, found⟩ := found
      obtain ⟨sound, found⟩ := Option.ite_none_right_eq_some.mp found
      obtain ⟨inRange, found⟩ := Option.ite_none_right_eq_some.mp found
      obtain ⟨rfl, -⟩ := Prod.mk.inj (Option.some.inj found)
      simp only [Bool.and_eq_true, decide_eq_true_eq] at sound
      exact isProper_ofLocal sound.1.1.1.1 sound.2 (lt_of_readNanosecond fraction) inRange
    next => contradiction
  next => contradiction

/-- What is read lies in the calendar. -/
theorem isProper_of_parse {text : String} {instant : Instant}
    (found : parse text = some instant) : instant.IsProper := by
  rw [parse] at found
  split at found
  next reads =>
    obtain ⟨-, same⟩ := Option.ite_none_right_eq_some.mp found
    obtain rfl := Option.some.inj same
    exact isProper_of_read reads
  next => contradiction

end Instant

end NodeGate
