import Converge.Proofs.Digits
import Converge.Timestamp.Text

/-! Instants survive being written. The text of an instant has every part at a fixed width, but for
the year and the fraction, and is read back as the same instant. -/
namespace Converge.Timestamp

open Text

section Parts

variable {row rest : List Char}

theorem not_isBlank_of_isDigit {c : Char} (digit : c.isDigit = true) : isBlank c = false := by
  simp only [Char.isDigit, Bool.and_eq_true, decide_eq_true_eq] at digit
  have least := UInt32.le_iff_toNat_le.1 digit.1
  have most := UInt32.le_iff_toNat_le.1 digit.2
  simp only [isBlank, Char.toNat]
  simp at least most ⊢
  omega

theorem skipBlanks_row (isRow : IsRow row) : skipBlanks (row ++ rest) = row ++ rest := by
  obtain ⟨c, tail, rfl⟩ := List.exists_cons_of_ne_nil isRow.nonempty
  have digit := isRow.digits c List.mem_cons_self
  exact List.dropWhile_cons_of_neg (by rw [not_isBlank_of_isDigit digit]; exact Bool.false_ne_true)

theorem readNumber_row {width : Option Nat} (isRow : IsRow row)
    (read : (match width with
      | some most => (row ++ rest).take most
      | none => row ++ rest).takeWhile Char.isDigit = row) :
    readNumber width (row ++ rest) = .ok (digitsValue row, rest) := by
  unfold readNumber
  dsimp only
  generalize found : List.takeWhile Char.isDigit _ = digits
  obtain rfl : digits = row := found.symm.trans read
  split
  · exact absurd rfl isRow.nonempty
  · exact absurd rfl isRow.nonempty
  · rw [List.drop_left]

theorem readNumber_none (isRow : IsRow row) (ends : EndsRow rest) :
    readNumber none (row ++ rest) = .ok (digitsValue row, rest) :=
  readNumber_row isRow (takeWhile_row isRow ends)

theorem readNumber_some {most : Nat} (isRow : IsRow row) (short : row.length ≤ most)
    (ends : EndsRow (rest.take (most - row.length))) :
    readNumber (some most) (row ++ rest) = .ok (digitsValue row, rest) := by
  refine readNumber_row isRow ?_
  simp only [List.take_append, List.take_of_length_le short]
  exact takeWhile_row isRow ends

theorem readNumber_padded {width number : Nat} (positive : 0 < width)
    (small : number < Nat.pow 10 width) (rest : List Char) :
    readNumber (some width) (padded width number ++ rest) = .ok (number, rest) := by
  have length := length_padded positive small
  have ends : EndsRow (rest.take (width - (padded width number).length)) := by
    rw [length, Nat.sub_self]
    exact nofun
  have read := readNumber_some (isRow_padded width number) (Nat.le_of_eq length) ends
  rw [digitsValue_padded] at read
  exact read

theorem readPair_padded {least most number : Nat} (fits : least ≤ number ∧ number ≤ most)
    (small : number < 100) (rest : List Char) :
    readPair least most (padded 2 number ++ rest) = .ok (number, rest) := by
  rw [readPair, skipBlanks_row (isRow_padded 2 number),
    readNumber_padded (by decide) small]
  exact if_pos fits

theorem readMark_self {mark : Char} (seen : isBlank mark = false) (rest : List Char) :
    readMark mark (mark :: rest) = .ok rest := by
  have there : skipBlanks (mark :: rest) = mark :: rest :=
    List.dropWhile_cons_of_neg (by rw [seen]; exact Bool.false_ne_true)
  rw [readMark, there]
  exact if_pos rfl

theorem readYear_yearText {year : Int} (span : -262143 ≤ year ∧ year ≤ 262142) (rest : List Char) :
    readYear (yearText year ++ '-' :: rest) = .ok (year, '-' :: rest) := by
  have power : ((Nat.pow 2 31 : Nat) : Int) = 2147483648 := rfl
  have fits : -(Nat.pow 2 31 : Int) ≤ year ∧ year < Nat.pow 2 31 := by omega
  have ends : EndsRow ('-' :: rest) := by
    rintro c ⟨⟩
    rfl
  have isRow : ∀ number, IsRow (padded 4 number) := isRow_padded 4
  by_cases four : 0 ≤ year ∧ year ≤ 9999
  · have small : year.toNat < Nat.pow 10 4 := by
      have power : Nat.pow 10 4 = 10000 := rfl
      omega
    have value : (year.toNat : Int) = year := Int.toNat_of_nonneg four.1
    have read := readNumber_padded (by decide) small ('-' :: rest)
    rw [yearText, if_pos four, readYear, skipBlanks_row (isRow _)]
    split
    · next found => exact absurd ((isRow _).isDigit_of_cons found) (by decide)
    · next found => exact absurd ((isRow _).isDigit_of_cons found) (by decide)
    · simp only [read, Except.map, bind, Except.bind, value]
      exact if_pos fits
  · by_cases negative : year < 0
    · have value : -(year.natAbs : Int) = year := by omega
      have blank : ∀ tail, skipBlanks ('-' :: tail) = '-' :: tail := fun _ => rfl
      rw [yearText, if_neg four, if_pos negative, List.cons_append, readYear, blank]
      simp only [readNumber_none (isRow _) ends, digitsValue_padded, Except.map, bind, Except.bind,
        value]
      exact if_pos fits
    · have value : (year.natAbs : Int) = year := by omega
      have blank : ∀ tail, skipBlanks ('+' :: tail) = '+' :: tail := fun _ => rfl
      rw [yearText, if_neg four, if_neg negative, List.cons_append, readYear, blank]
      simp only [readNumber_none (isRow _) ends, digitsValue_padded, Except.map, bind, Except.bind,
        value]
      exact if_pos fits

theorem readFraction_padded {width number : Nat} (positive : 0 < width) (short : width ≤ 9)
    (small : number < Nat.pow 10 width) :
    readFraction ('.' :: (padded width number ++ ['Z'])) =
      .ok (number * Nat.pow 10 (9 - width), ['Z']) := by
  have length := length_padded positive small
  have ends : EndsRow ['Z'] := by
    rintro c ⟨⟩
    rfl
  have read := readNumber_some (isRow_padded width number) (length ▸ short) (ends.take _)
  have count : (padded width number ++ ['Z']).length - ['Z'].length = width := by
    rw [List.length_append, Nat.add_sub_cancel, length]
  rw [digitsValue_padded] at read
  simp only [readFraction, read, Except.map, count]
  rfl

theorem readFraction_fractionText {nanosecond : Nat} (small : nanosecond < 1000000000) :
    readFraction (fractionText nanosecond ++ ['Z']) = .ok (nanosecond, ['Z']) := by
  unfold fractionText
  split
  · next none =>
    rw [none]
    rfl
  · split
    · next thousands =>
      have value : nanosecond / 1000000 * Nat.pow 10 (9 - 3) = nanosecond :=
        Nat.div_mul_cancel (Nat.dvd_of_mod_eq_zero thousands)
      have power : Nat.pow 10 3 = 1000 := rfl
      refine (readFraction_padded (by decide) (by decide) (by omega)).trans ?_
      rw [value]
    · split
      · next units =>
        have value : nanosecond / 1000 * Nat.pow 10 (9 - 6) = nanosecond :=
          Nat.div_mul_cancel (Nat.dvd_of_mod_eq_zero units)
        have power : Nat.pow 10 6 = 1000000 := rfl
        refine (readFraction_padded (by decide) (by decide) (by omega)).trans ?_
        rw [value]
      · have value : nanosecond * Nat.pow 10 (9 - 9) = nanosecond := Nat.mul_one nanosecond
        refine (readFraction_padded (by decide) (by decide) small).trans ?_
        rw [value]

end Parts

theorem daysInMonth_le (year : Int) (month : Nat) : daysInMonth year month ≤ 31 := by
  unfold daysInMonth
  split
  · split <;> decide
  · split <;> decide

theorem shift?_zero (instant : Timestamp) : instant.shift? 0 = some instant := by
  have hour := instant.hourInDay
  have minute := instant.minuteInHour
  have early : ¬(instant.hour : Int) * 60 + instant.minute + 0 < 0 := by omega
  have late : ¬1440 ≤ (instant.hour : Int) * 60 + instant.minute + 0 := by omega
  have hours : (((instant.hour : Int) * 60 + instant.minute + 0 + 1440) % 1440).toNat / 60 =
      instant.hour := by omega
  have minutes : (((instant.hour : Int) * 60 + instant.minute + 0 + 1440) % 1440).toNat % 60 =
      instant.minute := by omega
  simp only [shift?, early, late, if_false, hours, minutes, Option.bind_some, of?_self]

theorem read_text (instant : Timestamp) : read instant.text = .ok instant := by
  have month := instant.date.monthInYear
  have day := instant.date.dayInMonth
  have days := daysInMonth_le instant.date.year instant.date.month
  have hour := instant.hourInDay
  have minute := instant.minuteInHour
  have second := instant.secondInMinute
  have text : instant.text.toList = yearText instant.date.year ++
      '-' :: (padded 2 instant.date.month ++ '-' :: (padded 2 instant.date.day ++
      'T' :: (padded 2 instant.hour ++ ':' :: (padded 2 instant.minute ++
      ':' :: (padded 2 instant.second ++ (fractionText instant.nanosecond ++ ['Z'])))))) := by
    simp [Timestamp.text]
  have readMonth := readPair_padded month (by omega)
  have readDay := readPair_padded (show 1 ≤ instant.date.day ∧ instant.date.day ≤ 31 by omega)
    (by omega)
  have readHour := readPair_padded (show 0 ≤ instant.hour ∧ instant.hour ≤ 23 by omega) (by omega)
  have readMinute := readPair_padded (show 0 ≤ instant.minute ∧ instant.minute ≤ 59 by omega)
    (by omega)
  have readSecond := readPair_padded (show 0 ≤ instant.second ∧ instant.second ≤ 60 by omega)
    (by omega)
  have offset : readOffset ['Z'] = .ok (0, []) := rfl
  have blanks : skipBlanks [] = [] := rfl
  rw [read, text, readYear_yearText instant.date.yearInSpan]
  simp only [bind, Except.bind, readMark_self (show isBlank '-' = false from rfl),
    readMark_self (show isBlank ':' = false from rfl), readMonth, readDay, readHour, readMinute,
    readSecond, readFraction_fractionText instant.nanosecondInSecond, offset, blanks, Date.of?_self,
    Option.bind_some, of?_self, Int.neg_zero, shift?_zero]
  rfl

end Converge.Timestamp
