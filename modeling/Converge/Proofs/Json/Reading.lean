import Mathlib.Tactic.SplitIfs
import Converge.Json.Reader
import Converge.Json.Writer
import Converge.Proofs.Digits

/-! What is written is read back. A document as records have it is written without blanks, and
whoever reads that text finds the document again and nothing behind it. -/
namespace Converge.Json

open Text

mutual

/-- Nothing is broken, every key is a string and every number one that 64 bits hold. -/
def Document.IsPlain : Document → Prop
  | .null | .bool _ | .string _ => True
  | .number (.integer value) => 0 ≤ value ∧ value ≤ Literal.largest
  | .array items => items.IsPlain
  | .object members => members.IsPlain
  | _ => False

def Items.IsPlain : Items → Prop
  | .closed => True
  | .broken _ => False
  | .item value rest => value.IsPlain ∧ rest.IsPlain

def Members.IsPlain : Members → Prop
  | .closed => True
  | .member (.string _) value rest => value.IsPlain ∧ rest.IsPlain
  | _ => False

end

section Texts

theorem toList_compact_natural (value : Nat) :
    (Document.number (.integer value)).compact.toList = Nat.toDigits 10 value := by
  show (toString (value : Int)).toList = _
  exact Nat.toList_repr

theorem toList_compact_string (text : String) :
    (Document.string text).compact.toList =
      '"' :: (text.toList.flatMap Writer.escaped ++ ['"']) := by
  simp [Document.compact, Writer.string]

theorem toList_compact_array (items : Items) :
    (Document.array items).compact.toList = '[' :: ((items.compact true).toList ++ [']']) := by
  simp [Document.compact]

theorem toList_compact_object (members : Members) :
    (Document.object members).compact.toList =
      '\x7b' :: ((members.compact true).toList ++ ['\x7d']) := by
  simp [Document.compact]

def separator (first : Bool) : List Char := if first then [] else [',']

theorem separator_true : separator true = [] := rfl

theorem separator_false : separator false = [','] := rfl

theorem toList_compact_item (value : Document) (rest : Items) (first : Bool) :
    ((Items.item value rest).compact first).toList =
      separator first ++ (value.compact.toList ++ (rest.compact false).toList) := by
  cases first <;> simp [Items.compact, separator]

theorem toList_compact_member (key value : Document) (rest : Members) (first : Bool) :
    ((Members.member key value rest).compact first).toList =
      separator first ++ (key.compact.toList ++
        ':' :: (value.compact.toList ++ (rest.compact false).toList)) := by
  cases first <;> simp [Members.compact, separator]

end Texts

namespace Reader

/-- What may follow a value. -/
def Follows (rest : List Char) : Prop := ∀ c ∈ rest.head?, c = ',' ∨ c = ']' ∨ c = '\x7d'

theorem skipSpace_cons {c : Char} (tail : List Char)
    (seen : (c = ' ' || c = '\n' || c = '\t' || c = '\r') = false) :
    skipSpace (c :: tail) = c :: tail :=
  List.dropWhile_cons_of_neg (by rw [seen]; exact Bool.false_ne_true)

section Strings

theorem hexDigit?_digitChar : ∀ d < 16, hexDigit? d.digitChar = some d := by decide

theorem utf8Size_digitChar : ∀ d < 16, d.digitChar.utf8Size = 1 := by decide

theorem hexEscape_digits {a b : Nat} (high : a < 16) (low : b < 16) (rest : List Char) :
    hexEscape ('0' :: '0' :: a.digitChar :: b.digitChar :: rest) = .ok (a * 16 + b, rest) := by
  have length : utf8Length ['0', '0', a.digitChar, b.digitChar] = 4 := by
    simp [utf8Length, utf8Size_digitChar a high, utf8Size_digitChar b low]
    rfl
  have zero : hexDigit? '0' = some 0 := by decide
  simp [hexEscape, length, zero, hexDigit?_digitChar a high, hexDigit?_digitChar b low]

theorem escape_control {c : Char} (control : c.toNat < 0x20) (rest : List Char) :
    escape ('u' :: '0' :: '0' :: Nat.digitChar (c.toNat / 16) :: Nat.digitChar (c.toNat % 16) ::
      rest) = .ok (c, rest) := by
  have high : c.toNat / 16 < 16 := by omega
  have low : c.toNat % 16 < 16 := by omega
  have unit : c.toNat / 16 * 16 + c.toNat % 16 = c.toNat := by omega
  have noLow : ¬(0xDC00 ≤ c.toNat ∧ c.toNat ≤ 0xDFFF) := by omega
  have noHigh : ¬(0xD800 ≤ c.toNat ∧ c.toNat ≤ 0xDBFF) := by omega
  simp only [escape, hexEscape_digits high low, unit, bind, Except.bind, if_neg noLow,
    if_neg noHigh, Char.ofNat_toNat]
  rfl

theorem stringBody_escape {meant : Char} {text rest : List Char}
    (read : escape text = .ok (meant, rest)) (fuel : Nat) (found : List Char) :
    stringBody (fuel + 1) found ('\\' :: text) = stringBody fuel (meant :: found) rest := by
  have other : '\\' ≠ '"' := by decide
  simp only [stringBody, if_neg other, if_true, read, bind, Except.bind]

theorem stringBody_escaped (c : Char) (fuel : Nat) (found rest : List Char) :
    stringBody (fuel + 1) found (Writer.escaped c ++ rest) = stringBody fuel (c :: found) rest := by
  unfold Writer.escaped
  split_ifs with quote backslash backspace feed line carriage tab control
  case pos => subst quote; rfl
  case pos => subst backslash; rfl
  case pos => subst backspace; rfl
  case pos => subst feed; rfl
  case pos => subst line; rfl
  case pos => subst carriage; rfl
  case pos => subst tab; rfl
  case pos => exact stringBody_escape (escape_control control rest) fuel found
  case neg => simp [stringBody, quote, backslash, control]

theorem stringBody_text (text : List Char) {fuel : Nat} (found rest : List Char)
    (enough : text.length < fuel) :
    stringBody fuel found (text.flatMap Writer.escaped ++ '"' :: rest) =
      .ok (text.reverse ++ found, rest) := by
  -- The induction is on the text.
  induction text generalizing fuel found with
  | nil =>
    obtain ⟨fuel, rfl⟩ := Nat.exists_eq_succ_of_ne_zero (Nat.ne_of_gt enough)
    rfl
  | cons c text ih =>
    obtain ⟨fuel, rfl⟩ := Nat.exists_eq_succ_of_ne_zero (Nat.ne_of_gt (Nat.zero_lt_of_lt enough))
    rw [List.flatMap_cons, List.append_assoc, stringBody_escaped,
      ih _ (Nat.lt_of_succ_lt_succ enough)]
    simp

theorem length_le_escaped (text : List Char) :
    text.length ≤ (text.flatMap Writer.escaped).length := by
  induction text with
  | nil => exact Nat.le_refl _
  | cons c text ih =>
    have some : 0 < (Writer.escaped c).length := by
      unfold Writer.escaped
      grind
    rw [List.flatMap_cons, List.length_cons, List.length_append]
    omega

theorem string_text (text : String) {fuel : Nat} (rest : List Char)
    (enough : text.toList.length < fuel) :
    string fuel (text.toList.flatMap Writer.escaped ++ '"' :: rest) = (.string text, rest) := by
  rw [string, stringBody_text _ _ _ enough]
  simp

end Strings

section Numbers

variable {value : Nat} {rest : List Char}

theorem not_isDigit_of_follows (follows : Follows rest) : EndsRow rest := by
  intro c member
  rcases follows c member with rfl | rfl | rfl <;> decide

theorem afterDigits_of_follows (literal : Literal) (follows : Follows rest) :
    afterDigits literal rest = finish literal rest := by
  unfold afterDigits
  split
  · exact absurd (follows 'e' rfl) (by decide)
  · exact absurd (follows 'E' rfl) (by decide)
  · rfl

theorem number?_toDigits (small : value ≤ Literal.largest) :
    (⟨false, Nat.toDigits 10 value, [], none⟩ : Literal).number? = some (.integer value) := by
  simp [Literal.number?, Literal.integer?, small]

theorem number_toDigits (small : value ≤ Literal.largest) (follows : Follows rest) :
    number false (Nat.toDigits 10 value ++ rest) = (.number (.integer value), rest) := by
  have isRow := isRow_toDigits value
  have ends := not_isDigit_of_follows follows
  have read : digits (Nat.toDigits 10 value ++ rest) = (Nat.toDigits 10 value, rest) := by
    rw [digits, takeWhile_row isRow ends, dropWhile_row isRow ends]
  unfold number
  rw [read]
  simp only
  split
  · next none => exact absurd none isRow.nonempty
  · next none => exact absurd none isRow.nonempty
  · next second more _ leading =>
    rcases Nat.eq_zero_or_pos value with rfl | positive
    · cases leading
    · exact absurd (by rw [leading]; rfl) (head?_toDigits_ne_zero positive)
  · exact absurd (follows '.' rfl) (by decide)
  · rw [afterDigits_of_follows _ follows, finish, number?_toDigits small]

end Numbers

section Values

theorem value_string (fuel : Nat) (tail : List Char) :
    value (fuel + 1) ('"' :: tail) = string fuel tail := rfl

theorem value_array (fuel : Nat) (tail : List Char) :
    value (fuel + 1) ('[' :: tail) = (.array (items fuel true tail).1, (items fuel true tail).2) :=
  rfl

theorem value_object (fuel : Nat) (tail : List Char) :
    value (fuel + 1) ('\x7b' :: tail) =
      (.object (members fuel true tail).1, (members fuel true tail).2) := rfl

theorem ne_of_isDigit {c d : Char} (digit : c.isDigit = true) (other : d.isDigit = false) :
    c ≠ d := by
  rintro rfl
  exact Bool.false_ne_true (other.symm.trans digit)

def Starts (c : Char) : Prop :=
  (c = ' ' || c = '\n' || c = '\t' || c = '\r') = false ∧ c ≠ ']' ∧ c ≠ '\x7d'
deriving Decidable

theorem starts_of_isDigit {c : Char} (digit : c.isDigit = true) : Starts c := by
  have other : ∀ d : Char, d.isDigit = false → c ≠ d := fun d => ne_of_isDigit digit
  exact ⟨by simp [other ' ' rfl, other '\n' rfl, other '\t' rfl, other '\r' rfl], other _ rfl,
    other _ rfl⟩

theorem value_digit (fuel : Nat) {c : Char} (digit : c.isDigit = true) (tail : List Char) :
    value (fuel + 1) (c :: tail) = number false (c :: tail) := by
  rw [value, skipSpace_cons tail (starts_of_isDigit digit).1]
  split
  case h_1 found => cases found
  case h_9 found =>
    cases found
    exact if_pos digit
  all_goals next found => exact absurd (List.cons.inj found).1 (ne_of_isDigit digit rfl)

theorem natural_of_isPlain {value : Int} (plain : (Document.number (.integer value)).IsPlain) :
    ∃ natural : Nat, value = natural ∧ natural ≤ Literal.largest := by
  obtain ⟨natural, rfl⟩ := Int.eq_ofNat_of_zero_le plain.1
  exact ⟨natural, rfl, Int.ofNat_le.1 plain.2⟩

theorem exists_start {document : Document} (plain : document.IsPlain) :
    ∃ c tail, document.compact.toList = c :: tail ∧ Starts c := by
  match document with
  | .null => exact ⟨'n', _, rfl, by decide⟩
  | .bool true => exact ⟨'t', _, rfl, by decide⟩
  | .bool false => exact ⟨'f', _, rfl, by decide⟩
  | .string text => exact ⟨'"', _, toList_compact_string text, by decide⟩
  | .array items => exact ⟨'[', _, toList_compact_array items, by decide⟩
  | .object members => exact ⟨'\x7b', _, toList_compact_object members, by decide⟩
  | .number (.integer value) =>
    obtain ⟨natural, rfl, -⟩ := natural_of_isPlain plain
    have isRow := isRow_toDigits natural
    obtain ⟨c, tail, shape⟩ := List.exists_cons_of_ne_nil isRow.nonempty
    have digit : c.isDigit = true := isRow.digits c (by rw [shape]; exact List.mem_cons_self)
    exact ⟨c, tail, (toList_compact_natural natural).trans shape, starts_of_isDigit digit⟩
  | .number (.decimal value) | .missing _ | .spoilt _ _ _ => exact plain.elim

theorem items_item (fuel : Nat) (first : Bool) {c : Char} (starts : Starts c) (tail : List Char) :
    items (fuel + 1) first (separator first ++ c :: tail) =
      ((.item (value fuel (c :: tail)).1 (items fuel false (value fuel (c :: tail)).2).1),
        (items fuel false (value fuel (c :: tail)).2).2) := by
  obtain ⟨seen, noEnd, -⟩ := starts
  have due : skipSpace (c :: tail) = c :: tail := skipSpace_cons tail seen
  cases first with
  | true =>
    rw [separator_true, List.nil_append, items, due]
    simp only [noEnd, if_false, Bool.true_or, if_true]
    split
    · next found => exact absurd (List.cons.inj found).1 noEnd
    · rfl
  | false =>
    have comma : skipSpace (',' :: c :: tail) = ',' :: c :: tail := rfl
    rw [separator_false, List.singleton_append, items, comma]
    have other : (',' : Char) ≠ ']' := by decide
    simp only [due, other, if_false, decide_true, Bool.or_true, if_true, Bool.false_eq_true]
    split
    · next found => exact absurd (List.cons.inj found).1 noEnd
    · rfl

theorem members_member (fuel : Nat) (first : Bool) {key : Document} {tail more : List Char}
    (named : string fuel tail = (key, ':' :: more)) :
    members (fuel + 1) first (separator first ++ '"' :: tail) =
      (.member key (value fuel more).1 (members fuel false (value fuel more).2).1,
        (members fuel false (value fuel more).2).2) := by
  have colon : skipSpace (':' :: more) = ':' :: more := rfl
  have quote : skipSpace ('"' :: tail) = '"' :: tail := rfl
  cases first with
  | true =>
    have other : ('"' : Char) ≠ '\x7d' := by decide
    rw [separator_true, List.nil_append, members, quote]
    simp only [other, if_false, Bool.true_or, if_true, named, colon]
  | false =>
    have comma : skipSpace (',' :: '"' :: tail) = ',' :: '"' :: tail := rfl
    have other : (',' : Char) ≠ '\x7d' := by decide
    rw [separator_false, List.singleton_append, members, comma]
    simp only [quote, other, if_false, decide_true, Bool.or_true, if_true, Bool.false_eq_true,
      named, colon]

theorem follows_items (items : Items) (rest : List Char) :
    Follows ((items.compact false).toList ++ ']' :: rest) := by
  cases items with
  | item value more =>
    rw [toList_compact_item]
    rintro c ⟨⟩
    exact .inl rfl
  | closed | broken =>
    rintro c ⟨⟩
    exact .inr (.inl rfl)

theorem follows_members (members : Members) (rest : List Char) :
    Follows ((members.compact false).toList ++ '\x7d' :: rest) := by
  cases members with
  | member key value more =>
    rw [toList_compact_member]
    rintro c ⟨⟩
    exact .inl rfl
  | closed | broken =>
    rintro c ⟨⟩
    exact .inr (.inr rfl)

end Values

end Reader

open Reader

mutual

theorem Document.value_compact (document : Document) (plain : document.IsPlain) (fuel : Nat)
    (rest : List Char) (enough : 2 * document.compact.toList.length ≤ fuel)
    (follows : Follows rest) :
    value fuel (document.compact.toList ++ rest) = (document, rest) := by
  -- A value of a list and the rest of the list share the fuel, so that twice the length of the
  -- text is enough.
  obtain ⟨c, tail, shape, starts⟩ := exists_start plain
  obtain ⟨fuel, rfl⟩ : ∃ less, fuel = less + 1 := by
    rw [shape, List.length_cons] at enough
    exact ⟨fuel - 1, by omega⟩
  cases document with
  | null => rfl
  | bool value => cases value <;> rfl
  | string text =>
    rw [toList_compact_string, List.cons_append, List.append_assoc, value_string]
    rw [toList_compact_string] at enough
    have short := length_le_escaped text.toList
    rw [List.singleton_append, string_text text rest]
    simp only [List.length_cons, List.length_append, List.length_nil] at enough
    omega
  | array items =>
    rw [toList_compact_array] at enough
    rw [toList_compact_array, List.cons_append, List.append_assoc, value_array]
    rw [List.singleton_append, items.items_compact plain true fuel rest]
    simp only [List.length_cons, List.length_append, List.length_nil] at enough
    omega
  | object members =>
    rw [toList_compact_object] at enough
    rw [toList_compact_object, List.cons_append, List.append_assoc, value_object]
    rw [List.singleton_append, members.members_compact plain true fuel rest]
    simp only [List.length_cons, List.length_append, List.length_nil] at enough
    omega
  | number value =>
    cases value with
    | decimal => exact plain.elim
    | integer value =>
      obtain ⟨natural, rfl, small⟩ := natural_of_isPlain plain
      rw [toList_compact_natural] at shape ⊢
      rw [← number_toDigits small follows, shape]
      refine value_digit fuel ?_ _
      exact (isRow_toDigits natural).digits c (by rw [shape]; exact List.mem_cons_self)
  | missing | spoilt => exact plain.elim

theorem Items.items_compact (items : Items) (plain : items.IsPlain) (first : Bool) (fuel : Nat)
    (rest : List Char) (enough : 2 * ((items.compact first).toList.length + 1) ≤ fuel) :
    Reader.items fuel first ((items.compact first).toList ++ ']' :: rest) = (items, rest) := by
  obtain ⟨fuel, rfl⟩ : ∃ less, fuel = less + 1 := ⟨fuel - 1, by omega⟩
  cases items with
  | closed => rfl
  | broken => exact plain.elim
  | item value more =>
    obtain ⟨c, tail, shape, starts⟩ := exists_start plain.1
    simp only [toList_compact_item, List.length_append] at enough
    rw [toList_compact_item, List.append_assoc, List.append_assoc]
    have one := value.value_compact plain.1 fuel ((more.compact false).toList ++ ']' :: rest)
      (by omega) (follows_items more rest)
    have long : 0 < value.compact.toList.length := by
      rw [shape]
      exact Nat.succ_pos _
    have others := more.items_compact plain.2 false fuel rest (by omega)
    rw [shape, List.cons_append] at one ⊢
    rw [items_item fuel first starts, one]
    simp only
    rw [others]

theorem Members.members_compact (members : Members) (plain : members.IsPlain) (first : Bool)
    (fuel : Nat) (rest : List Char)
    (enough : 2 * ((members.compact first).toList.length + 1) ≤ fuel) :
    Reader.members fuel first ((members.compact first).toList ++ '\x7d' :: rest) =
      (members, rest) := by
  obtain ⟨fuel, rfl⟩ : ∃ less, fuel = less + 1 := ⟨fuel - 1, by omega⟩
  cases members with
  | closed => rfl
  | broken => exact plain.elim
  | member key value more =>
    cases key with
    | string name =>
      simp only [toList_compact_member, toList_compact_string, List.length_append, List.length_cons,
        List.length_nil] at enough
      have short := length_le_escaped name.toList
      let behind := value.compact.toList ++ ((more.compact false).toList ++ '\x7d' :: rest)
      have named : string fuel (name.toList.flatMap Writer.escaped ++ '"' :: ':' :: behind) =
          (.string name, ':' :: behind) := string_text name _ (by omega)
      have one := value.value_compact plain.1 fuel ((more.compact false).toList ++ '\x7d' :: rest)
        (by omega) (follows_members more rest)
      have others := more.members_compact plain.2 false fuel rest (by omega)
      have text :
          ((Members.member (.string name) value more).compact first).toList ++ '\x7d' :: rest =
            separator first ++ '"' ::
              (name.toList.flatMap Writer.escaped ++ '"' :: ':' :: behind) := by
        simp [toList_compact_member, toList_compact_string, behind]
      rw [text, members_member fuel first named, one]
      simp only
      rw [others]
    | _ => exact plain.elim

end

theorem read_compact {document : Document} (plain : document.IsPlain) :
    read document.compact = ⟨document, false⟩ := by
  have whole := document.value_compact plain (2 * document.compact.toList.length + 2) [] (by omega)
    nofun
  rw [List.append_nil] at whole
  rw [read, whole]
  rfl

end Converge.Json
