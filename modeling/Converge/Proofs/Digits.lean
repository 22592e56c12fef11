import Converge.Text.Blank

/-! Rows of decimal digits. A number is written as a row of digits, with zeros before it or without,
and read from one. Where it ends is told by what follows. -/
namespace Converge.Text

structure IsRow (row : List Char) : Prop where
  nonempty : row ≠ []
  digits : ∀ c ∈ row, c.isDigit = true

def EndsRow (rest : List Char) : Prop := ∀ c ∈ rest.head?, c.isDigit = false

theorem EndsRow.take {rest : List Char} (ends : EndsRow rest) (count : Nat) :
    EndsRow (rest.take count) := by
  intro c member
  rw [List.head?_take] at member
  split at member
  · cases member
  · exact ends c member

theorem foldl_digit? (digits : List Char) (all : ∀ c ∈ digits, c.isDigit = true) (start : Nat) :
    digits.foldl (fun value c => value * 10 + (digit? c).getD 0) start =
      Nat.ofDigitChars 10 digits start := by
  induction digits generalizing start with
  | nil => simp
  | cons c rest ih =>
    have digit : (digit? c).getD 0 = c.toNat - 48 := by
      simp [digit?, all c List.mem_cons_self]
    rw [List.foldl_cons, Nat.ofDigitChars_cons, digit, Nat.mul_comm start 10]
    exact ih (fun c member => all c (List.mem_cons_of_mem _ member)) _

theorem digitsValue_eq (digits : List Char) (all : ∀ c ∈ digits, c.isDigit = true) :
    digitsValue digits = Nat.ofDigitChars 10 digits 0 :=
  foldl_digit? digits all 0

theorem isRow_toDigits (number : Nat) : IsRow (Nat.toDigits 10 number) where
  nonempty := Nat.toDigits_ne_nil
  digits _ member := Nat.isDigit_of_mem_toDigits (by decide) (by decide) member

@[simp]
theorem digitsValue_toDigits (number : Nat) : digitsValue (Nat.toDigits 10 number) = number := by
  rw [digitsValue_eq _ (isRow_toDigits number).digits, Nat.ofDigitChars_ten_toDigits]

theorem head?_toDigits_ne_zero {number : Nat} (positive : 0 < number) :
    (Nat.toDigits 10 number).head? ≠ some '0' := by
  have leading : ∀ d < 10, 0 < d → d.digitChar ≠ '0' := by decide
  induction number using Nat.base_induction 10 (by decide) with
  | single d small =>
    rw [Nat.toDigits_of_lt_base small]
    exact fun zero => leading d small positive (Option.some.inj zero)
  | digit rest d small more ih =>
    obtain ⟨first, others, shape⟩ :=
      List.exists_cons_of_ne_nil (isRow_toDigits rest).nonempty
    rw [← Nat.toDigits_append_toDigits (by decide) more small, shape]
    rw [shape] at ih
    exact ih more

theorem isRow_padded (width number : Nat) : IsRow (padded width number) where
  nonempty := List.append_ne_nil_of_right_ne_nil _ Nat.toDigits_ne_nil
  digits := by
    intro c member
    rcases List.mem_append.1 member with zero | digit
    · rw [List.eq_of_mem_replicate zero]
      decide
    · exact (isRow_toDigits number).digits c digit

theorem digitsValue_zeros (count : Nat) (digits : List Char) :
    digitsValue (List.replicate count '0' ++ digits) = digitsValue digits := by
  induction count with
  | zero => rfl
  | succ count ih => exact ih

@[simp]
theorem digitsValue_padded (width number : Nat) : digitsValue (padded width number) = number :=
  (digitsValue_zeros _ _).trans (digitsValue_toDigits number)

theorem length_padded {width number : Nat} (positive : 0 < width)
    (small : number < Nat.pow 10 width) : (padded width number).length = width := by
  have short : (Nat.toDigits 10 number).length ≤ width :=
    (Nat.length_toDigits_le_iff (by decide) positive).2 small
  rw [padded, List.length_append, List.length_replicate]
  omega

theorem IsRow.isDigit_of_cons {row rest tail : List Char} {c : Char} (isRow : IsRow row)
    (starts : row ++ rest = c :: tail) : c.isDigit = true := by
  obtain ⟨first, others, rfl⟩ := List.exists_cons_of_ne_nil isRow.nonempty
  obtain rfl : first = c := (List.cons.inj starts).1
  exact isRow.digits first List.mem_cons_self

section Scans

variable {row rest : List Char} (isRow : IsRow row) (ends : EndsRow rest)

include isRow ends

theorem takeWhile_row : (row ++ rest).takeWhile Char.isDigit = row := by
  rw [List.takeWhile_append_of_pos isRow.digits]
  cases rest with
  | nil => simp
  | cons c rest =>
    have other : c.isDigit = false := ends c rfl
    simp [other]

theorem dropWhile_row : (row ++ rest).dropWhile Char.isDigit = rest := by
  rw [List.dropWhile_append_of_pos isRow.digits]
  cases rest with
  | nil => rfl
  | cons c rest => exact List.dropWhile_cons_of_neg (by simp [ends c rfl])

end Scans

end Converge.Text
