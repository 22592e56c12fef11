import Converge.Proofs.Digits
import Converge.Provider.Registry

/-! Numbers in names. An id tells the number it was issued under, so ids with different numbers are
different whatever they name; a page token tells the offset it was made from; and ARNs tell kinds
and ids apart. -/
namespace Converge.Provider

def hexDigit (c : Char) : Nat := ((List.range 16).find? fun d => d.digitChar = c).getD 0

def hexValue (digits : List Char) (start : Nat) : Nat :=
  digits.foldl (fun value c => 16 * value + hexDigit c) start

def idNumber (id : String) : Nat :=
  hexValue (id.toList.reverse.takeWhile fun c => c ≠ '-').reverse 0

theorem hexDigit_digitChar : ∀ d < 16, hexDigit d.digitChar = d := by decide

theorem digitChar_ne_dash : ∀ d < 16, d.digitChar ≠ '-' := by decide

theorem hexValue_zeros (count start : Nat) (digits : List Char) (zero : start = 0) :
    hexValue (List.replicate count '0' ++ digits) start = hexValue digits 0 := by
  subst zero
  induction count with
  | zero => rfl
  | succ count ih =>
    have leading : hexDigit '0' = 0 := hexDigit_digitChar 0 (by decide)
    have first : hexValue ('0' :: (List.replicate count '0' ++ digits)) 0 =
        hexValue (List.replicate count '0' ++ digits) (16 * 0 + hexDigit '0') := rfl
    rw [List.replicate_succ, List.cons_append, first, leading]
    exact ih

theorem hexValue_toDigits (number : Nat) : hexValue (Nat.toDigits 16 number) 0 = number := by
  induction number using Nat.base_induction 16 (by decide) with
  | single d small =>
    rw [Nat.toDigits_of_lt_base small]
    have digit := hexDigit_digitChar d small
    simp only [hexValue, List.foldl_cons, List.foldl_nil]
    omega
  | digit rest d small positive ih =>
    rw [← Nat.toDigits_append_toDigits (by decide) positive small,
      Nat.toDigits_of_lt_base small]
    have digit := hexDigit_digitChar d small
    simp only [hexValue, List.foldl_append, List.foldl_cons, List.foldl_nil] at ih ⊢
    rw [ih, digit]

theorem dash_notMem_toDigits (number : Nat) : '-' ∉ Nat.toDigits 16 number := by
  induction number using Nat.base_induction 16 (by decide) with
  | single d small =>
    rw [Nat.toDigits_of_lt_base small]
    have digit := digitChar_ne_dash d small
    exact fun member => digit (List.mem_singleton.1 member).symm
  | digit rest d small positive ih =>
    rw [← Nat.toDigits_append_toDigits (by decide) positive small,
      Nat.toDigits_of_lt_base small]
    have digit := digitChar_ne_dash d small
    intro member
    rcases List.mem_append.1 member with high | low
    · exact ih high
    · exact digit (List.mem_singleton.1 low).symm

theorem idNumber_idText (stem : String) (number : Nat) :
    idNumber (idText stem number) = number := by
  let digits := Nat.toDigits 16 number
  let zeros := List.replicate (17 - digits.length) '0'
  have noDash : ∀ c ∈ (zeros ++ digits).reverse, decide (c ≠ '-') = true := by
    intro c member
    rcases List.mem_append.1 (List.mem_reverse.1 member) with zero | digit
    · rw [List.eq_of_mem_replicate zero]
      decide
    · refine decide_eq_true fun dash => ?_
      subst dash
      exact dash_notMem_toDigits number digit
  have shape : (idText stem number).toList.reverse =
      (zeros ++ digits).reverse ++ '-' :: stem.toList.reverse := by
    simp [idText, zeros, digits]
  rw [idNumber, shape, List.takeWhile_append_of_pos noDash, List.takeWhile_cons_of_neg (by decide),
    List.append_nil, List.reverse_reverse, hexValue_zeros _ _ _ rfl, hexValue_toDigits]

theorem idText_inj {stem other : String} {number otherNumber : Nat}
    (equal : idText stem number = idText other otherNumber) :
    stem = other ∧ number = otherNumber := by
  have numbers : number = otherNumber := by
    rw [← idNumber_idText stem number, equal, idNumber_idText]
  subst numbers
  refine ⟨?_, rfl⟩
  have lists := congrArg String.toList equal
  simp only [idText, String.toList_append, List.append_cancel_right_eq] at lists
  exact String.toList_injective lists

/-- The id is one of the first so many that were issued. -/
def Issued (serial : Nat) (id : String) : Prop :=
  ∃ stem number, number ≤ serial ∧ id = idText stem number

theorem Issued.mono {serial later : Nat} {id : String} (issued : Issued serial id)
    (grown : serial ≤ later) : Issued later id := by
  obtain ⟨stem, number, bound, shape⟩ := issued
  exact ⟨stem, number, Nat.le_trans bound grown, shape⟩

theorem issued_idText {serial number : Nat} (stem : String) (bound : number ≤ serial) :
    Issued serial (idText stem number) :=
  ⟨stem, number, bound, rfl⟩

theorem Issued.ne_idText {serial number : Nat} {id : String} (issued : Issued serial id)
    (stem : String) (above : serial < number) : id ≠ idText stem number := by
  obtain ⟨other, old, bound, rfl⟩ := issued
  intro equal
  have same : old = number := by
    rw [← idNumber_idText other old, equal, idNumber_idText]
  omega

inductive ArnKind where
  | endpoint
  | rule
deriving DecidableEq

namespace ArnKind

def label : ArnKind → String
  | .endpoint => "resolver-endpoint"
  | .rule => "resolver-rule"

end ArnKind

theorem toList_arn (site : Site) (kind id : String) :
    (site.arn kind id).toList = "arn:aws:route53resolver:".toList ++ (site.region.toList ++
      (":".toList ++ (site.accountId.toList ++ (":".toList ++
        (kind.toList ++ ("/".toList ++ id.toList)))))) := by
  unfold Site.arn
  simp only [toString, String.toList_append, List.append_assoc]

theorem arn_inj (site : Site) {kind other : ArnKind} {id otherId : String}
    (equal : site.arn kind.label id = site.arn other.label otherId) :
    kind = other ∧ id = otherId := by
  have lists := congrArg String.toList equal
  rw [toList_arn, toList_arn] at lists
  simp only [List.append_cancel_left_eq] at lists
  cases kind <;> cases other
  case endpoint.endpoint | rule.rule =>
    simp only [List.append_cancel_left_eq] at lists
    exact ⟨rfl, String.toList_injective lists⟩
  all_goals simp [ArnKind.label] at lists

section Offsets

open Converge.Text

@[simp]
theorem readOffset?_repr (offset : Nat) : readOffset? offset.repr = some offset := by
  have all : ∀ c ∈ Nat.toDigits 10 offset, c.isDigit = true := (isRow_toDigits offset).digits
  have digits : (!(Nat.toDigits 10 offset).all Char.isDigit) = false := by
    simp [List.all_eq_true.2 all]
  unfold readOffset?
  rw [Nat.toList_repr]
  split
  next rest signed =>
    have plus := all '+' (by simp [signed])
    exact absurd plus (by decide)
  next => simp only [digits, digitsValue_toDigits, List.isEmpty_eq_false_iff.2 Nat.toDigits_ne_nil,
    Bool.or_false, Bool.false_eq_true, ↓reduceIte]

end Offsets

end Converge.Provider
