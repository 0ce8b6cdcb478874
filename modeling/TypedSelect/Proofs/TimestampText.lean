import Mathlib.Data.List.TakeDrop
import TypedSelect.Proofs.Calendar
import TypedSelect.Proofs.Lexical
import TypedSelect.Time.TimestampReader

/-! The written form of an instant reads back. Every number in it is a run of digits that ends at
a mark, whatever follows the mark; year, fraction and the clock of a leap second have forms of
their own. -/
namespace TypedSelect

namespace Number

theorem padded_ne_nil (width n : Nat) : padded width n ≠ [] :=
  List.append_ne_nil_of_right_ne_nil _ (digits_ne_nil n)

theorem all_isDigit_padded (width n : Nat) : (padded width n).all Char.isDigit = true := by
  unfold padded
  rw [List.all_append, all_isDigit_digits, Bool.and_true, List.all_eq_true]
  intro c member
  rw [List.eq_of_mem_replicate member]
  decide

theorem padded_eq_cons (width n : Nat) :
    ∃ c rest, padded width n = c :: rest ∧ c.isDigit = true := by
  obtain ⟨c, rest, split⟩ := List.exists_cons_of_ne_nil (padded_ne_nil width n)
  have isRun := all_isDigit_padded width n
  rw [split, List.all_cons, Bool.and_eq_true] at isRun
  exact ⟨c, rest, split, isRun.1⟩

theorem digitsValue_padded (width n : Nat) : digitsValue 0 (padded width n) = n := by
  change Nat.ofDigitChars 10 (padded width n) 0 = n
  rw [padded, Nat.ofDigitChars_append, Nat.ofDigitChars_replicate_zero, Nat.mul_zero]
  exact Nat.ofDigitChars_ten_toDigits

theorem length_padded (width n : Nat) (positive : 0 < width) (fits : n < tenPow width) :
    (padded width n).length = width := by
  have short : (digits n).length ≤ width :=
    (Nat.length_toDigits_le_iff (by decide) positive).mpr fits
  rw [padded, List.length_append, List.length_replicate, Nat.sub_add_cancel short]

theorem takeWhile_run (run rest : List Char) (c : Char) (isRun : run.all Char.isDigit = true)
    (stops : c.isDigit = false) : (run ++ c :: rest).takeWhile Char.isDigit = run := by
  rw [List.takeWhile_append_of_pos (List.all_eq_true.mp isRun), List.takeWhile_cons, stops]
  exact List.append_nil run

theorem splitDigits_run (run rest : List Char) (c : Char) (isRun : run.all Char.isDigit = true)
    (stops : c.isDigit = false) : splitDigits (run ++ c :: rest) = (run, c :: rest) := by
  have taken := takeWhile_run run rest c isRun stops
  have split := List.takeWhile_append_dropWhile (p := Char.isDigit) (l := run ++ c :: rest)
  rw [taken, List.append_cancel_left_eq] at split
  rw [splitDigits, List.span_eq_takeWhile_dropWhile, taken, split]

end Number

namespace Time

open Number Text

theorem not_blank_of_isDigit (c : Char) (digit : c.isDigit = true) : isBlank c = false := by
  simp only [Char.isDigit, Bool.and_eq_true, decide_eq_true_eq, ge_iff_le,
    UInt32.le_iff_toNat_le] at digit
  have lower : 48 ≤ c.toNat := digit.1
  have upper : c.toNat ≤ 57 := digit.2
  unfold isBlank
  simp only [Bool.or_eq_false_iff, Bool.and_eq_false_iff, decide_eq_false_iff_not,
    beq_eq_false_iff_ne]
  omega

theorem skipBlanks_cons (c : Char) (rest : List Char) (visible : isBlank c = false) :
    skipBlanks (c :: rest) = c :: rest := by
  rw [skipBlanks, List.dropWhile_cons, visible]
  rfl

theorem readMark_cons (mark : Char) (rest : List Char) (visible : isBlank mark = false) :
    readMark mark (mark :: rest) = some rest := by
  rw [readMark, skipBlanks_cons mark rest visible]
  exact if_pos rfl

theorem readDigits_padded (width least n : Nat) (rest : List Char) (c : Char)
    (fits : (padded least n).length ≤ width) (stops : c.isDigit = false) :
    readDigits width (padded least n ++ c :: rest) = some (n, c :: rest) := by
  unfold readDigits
  dsimp only
  rw [takeWhile_run _ rest c (all_isDigit_padded least n) stops, List.take_of_length_le fits,
    List.isEmpty_eq_false_iff.mpr (padded_ne_nil least n), List.drop_left, digitsValue_padded]
  rfl

theorem readNumber_padded (width n : Nat) (rest : List Char) (c : Char) (positive : 0 < width)
    (fits : n < tenPow width) (stops : c.isDigit = false) :
    readNumber width (padded width n ++ c :: rest) = some (n, c :: rest) := by
  have length := Nat.le_of_eq (length_padded width n positive fits)
  have read := readDigits_padded width width n rest c length stops
  obtain ⟨first, more, split, digit⟩ := padded_eq_cons width n
  rw [split, List.cons_append] at read ⊢
  rw [readNumber, skipBlanks_cons first _ (not_blank_of_isDigit first digit), read]

theorem readYear_minus (rest : List Char) : readYear ('-' :: rest) =
    (readDigits rest.length rest).map fun (year, rest) => (-(year : Int), rest) := rfl

theorem readYear_plus (rest : List Char) : readYear ('+' :: rest) =
    (readDigits rest.length rest).map fun (year, rest) => ((year : Int), rest) := rfl

theorem readYear_digit (c : Char) (rest : List Char) (digit : c.isDigit = true) :
    readYear (c :: rest) =
      (readDigits 4 (c :: rest)).map fun (year, rest) => ((year : Int), rest) := by
  unfold readYear
  rw [skipBlanks_cons c rest (not_blank_of_isDigit c digit)]
  split
  · rename_i opens
    exact absurd ((List.cons.inj opens).1 ▸ digit) (by decide)
  · rename_i opens
    exact absurd ((List.cons.inj opens).1 ▸ digit) (by decide)
  · rfl

theorem readYear_yearText (year : Int) (rest : List Char) :
    readYear (yearText year ++ '-' :: rest) = some (year, '-' :: rest) := by
  have stops : '-'.isDigit = false := by decide
  unfold yearText
  split
  · rename_i short
    have fits : year.natAbs < 10000 := by omega
    have length := Nat.le_of_eq (length_padded 4 year.natAbs (by decide) fits)
    have read := readDigits_padded 4 4 year.natAbs rest '-' length stops
    have value : (year.natAbs : Int) = year := by omega
    obtain ⟨c, more, split, digit⟩ := padded_eq_cons 4 year.natAbs
    rw [split, List.cons_append] at read ⊢
    rw [readYear_digit c _ digit, read, Option.map_some]
    dsimp only
    rw [value]
  · have read := readDigits_padded (padded 4 year.natAbs ++ '-' :: rest).length 4 year.natAbs
      rest '-' (by simp) stops
    rw [List.cons_append]
    split
    · rename_i negative
      have value : -(year.natAbs : Int) = year := by omega
      rw [readYear_minus, read, Option.map_some]
      dsimp only
      rw [value]
    · rename_i positive
      have value : (year.natAbs : Int) = year := by omega
      rw [readYear_plus, read, Option.map_some]
      dsimp only
      rw [value]

theorem readFraction_point (rest : List Char) : readFraction ('.' :: rest) =
    if (splitDigits rest).1.isEmpty then none
    else some (digitsValue 0 ((splitDigits rest).1.take 9) *
      tenPow (9 - ((splitDigits rest).1.take 9).length), (splitDigits rest).2) := rfl

theorem readFraction_padded (width n : Nat) (rest : List Char) (c : Char) (positive : 0 < width)
    (width_le : width ≤ 9) (fits : n < tenPow width) (stops : c.isDigit = false) :
    readFraction ('.' :: padded width n ++ c :: rest) =
      some (n * tenPow (9 - width), c :: rest) := by
  have length := length_padded width n positive fits
  rw [List.cons_append, readFraction_point,
    splitDigits_run _ rest c (all_isDigit_padded width n) stops]
  dsimp only
  rw [List.take_of_length_le (by omega), List.isEmpty_eq_false_iff.mpr (padded_ne_nil width n),
    digitsValue_padded, length]
  rfl

theorem readFraction_fractionText (nano : Nat) (rest : List Char)
    (nano_lt : nano < nanosPerSecond) :
    readFraction (fractionText .exact nano ++ 'Z' :: rest) = some (nano, 'Z' :: rest) := by
  have stops : 'Z'.isDigit = false := by decide
  unfold nanosPerSecond at nano_lt
  unfold fractionText
  dsimp only
  split
  · rename_i whole
    rw [whole]
    rfl
  · split
    · rename_i millis
      have fits : nano / 1000000 < 1000 := by omega
      have value : nano / 1000000 * tenPow (9 - 3) = nano := by
        change nano / 1000000 * 1000000 = nano
        omega
      rw [readFraction_padded 3 _ rest 'Z' (by decide) (by decide) fits stops, value]
    · split
      · rename_i micros
        have fits : nano / 1000 < 1000000 := by omega
        have value : nano / 1000 * tenPow (9 - 6) = nano := by
          change nano / 1000 * 1000 = nano
          omega
        rw [readFraction_padded 6 _ rest 'Z' (by decide) (by decide) fits stops, value]
      · have value : nano * tenPow (9 - 9) = nano := Nat.mul_one nano
        rw [readFraction_padded 9 _ rest 'Z' (by decide) (by decide) nano_lt stops, value]

theorem fractionText_stops (nano : Nat) :
    ∃ c rest, fractionText .exact nano ++ ['Z'] = c :: rest ∧ c.isDigit = false := by
  unfold fractionText
  dsimp only
  split
  · exact ⟨'Z', [], rfl, by decide⟩
  · refine ⟨'.', ?_⟩
    split
    · exact ⟨_, List.cons_append, by decide⟩
    · split <;> exact ⟨_, List.cons_append, by decide⟩

theorem readSeparator_letter (rest : List Char) : readSeparator ('T' :: rest) = some rest := rfl

/-- A number of two digits after a mark, as the reading goes on with it. -/
theorem readNumber_marked {α : Type} (mark c : Char) (n : Nat) (rest : List Char)
    (next : Nat × List Char → Option α) (visible : isBlank mark = false) (fits : n < 100)
    (stops : c.isDigit = false) :
    ((readMark mark (mark :: (padded 2 n ++ c :: rest))).bind
      fun rest => (readNumber 2 rest).bind next) = next (n, c :: rest) := by
  rw [readMark_cons mark _ visible, Option.bind_some,
    readNumber_padded 2 n rest c (by decide) fits stops, Option.bind_some]

namespace Instant

theorem read_written (year : Int) (month day hour minute second nano : Nat)
    (month_lt : month < 100) (day_lt : day < 100) (hour_lt : hour < 100)
    (minute_lt : minute < 100) (second_lt : second < 100) (nano_lt : nano < nanosPerSecond) :
    read (yearText year ++ '-' :: padded 2 month ++ '-' :: padded 2 day ++
      'T' :: padded 2 hour ++ ':' :: padded 2 minute ++ ':' :: padded 2 second ++
      fractionText .exact nano ++ ['Z']) =
      ofLocal? ⟨year, month, day⟩ hour minute second nano 0 := by
  obtain ⟨c, rest, opens, stops⟩ := fractionText_stops nano
  have fraction := readFraction_fractionText nano [] nano_lt
  simp only [List.append_assoc, List.cons_append, opens] at fraction ⊢
  unfold read
  dsimp only [Option.bind_eq_bind]
  rw [readYear_yearText, Option.bind_some]
  dsimp only
  rw [readNumber_marked '-' '-' month _ _ (by decide) month_lt (by decide)]
  dsimp only
  rw [readNumber_marked '-' 'T' day _ _ (by decide) day_lt (by decide)]
  dsimp only
  rw [readSeparator_letter, Option.bind_some,
    readNumber_padded 2 hour _ ':' (by decide) hour_lt (by decide), Option.bind_some]
  dsimp only
  rw [readNumber_marked ':' ':' minute _ _ (by decide) minute_lt (by decide)]
  dsimp only
  rw [readNumber_marked ':' c second _ _ (by decide) second_lt stops]
  dsimp only
  rw [fraction]
  rfl

theorem ofLocal?_of_valid (d : Date) (hour minute second nano : Nat) (offset : Int)
    (valid : d.isValid = true ∧ firstYear ≤ d.year ∧ d.year ≤ lastYear)
    (shown : hour < 24 ∧ minute < 60 ∧ second ≤ 60) :
    ofLocal? d hour minute second nano offset =
      ofSecond? (d.toDayNumber * secondsPerDay +
        (hour * 3600 + minute * 60 + (if second = 60 then 59 else second) : Nat) - offset)
        (if second = 60 then nanosPerSecond + nano else nano) := by
  unfold ofLocal?
  simp only [valid, shown, and_self, guard, if_true, Option.pure_def, Option.bind_eq_bind,
    Option.bind_some, decide_eq_true_eq]

/-- The clock of an instant shows second sixty exactly in a leap second. -/
theorem ofLocal?_clock (t : Instant) :
    ofLocal? t.date (t.secondOfDay / 3600) (t.secondOfDay / 60 % 60)
      (t.secondOfDay % 60 + (if decide (nanosPerSecond ≤ t.nano) then 1 else 0))
      (t.nano % nanosPerSecond) 0 = some t := by
  have inDay := t.secondOfDay_lt
  have nano_lt := t.nano_lt
  have shown : ∀ extra ≤ 1, t.secondOfDay / 3600 < 24 ∧ t.secondOfDay / 60 % 60 < 60 ∧
      t.secondOfDay % 60 + extra ≤ 60 := by
    omega
  rw [ofLocal?_of_valid _ _ _ _ _ _ ⟨t.isValid_date, t.year_date⟩ (shown _ (by split <;> decide))]
  by_cases leap : nanosPerSecond ≤ t.nano
  · have minuteEnds : t.secondOfDay % 60 = 59 := by
      have atEnd := t.leap_at_end leap
      unfold secondOfDay secondsPerDay
      omega
    have clock : t.secondOfDay / 3600 * 3600 + t.secondOfDay / 60 % 60 * 60 + 59 =
        t.secondOfDay := by
      omega
    have nano : nanosPerSecond + t.nano % nanosPerSecond = t.nano := by
      unfold nanosPerSecond at *
      omega
    rw [minuteEnds, decide_eq_true leap]
    simp only [if_true, clock, nano, Int.sub_zero]
    exact t.ofSecond?_date
  · have clock : t.secondOfDay / 3600 * 3600 + t.secondOfDay / 60 % 60 * 60 +
        t.secondOfDay % 60 = t.secondOfDay := by
      omega
    have nano : t.nano % nanosPerSecond = t.nano := Nat.mod_eq_of_lt (Nat.not_le.mp leap)
    have notSixty : t.secondOfDay % 60 ≠ 60 := by omega
    rw [decide_eq_false leap]
    simp only [Bool.false_eq_true, if_false, Nat.add_zero, notSixty, clock, nano, Int.sub_zero]
    exact t.ofSecond?_date

theorem read_text (t : Instant) : read (t.text .exact) = some t := by
  have inDay := t.secondOfDay_lt
  obtain ⟨-, month_le, -, -⟩ := (Date.isValid_iff t.date).mp t.isValid_date
  have inMonth := t.date.day_le_of_isValid t.isValid_date
  have nano_lt : t.nano % nanosPerSecond < nanosPerSecond := Nat.mod_lt _ (by decide)
  have second_lt : t.secondOfDay % 60 +
      (if decide (nanosPerSecond ≤ t.nano) then 1 else 0) < 100 := by
    split <;> omega
  have written := read_written t.date.year t.date.month t.date.day (t.secondOfDay / 3600)
    (t.secondOfDay / 60 % 60) _ _ (by omega) (by omega) (by omega) (by omega) second_lt nano_lt
  exact written.trans t.ofLocal?_clock

end Instant

end Time

end TypedSelect
