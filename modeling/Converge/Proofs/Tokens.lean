import Converge.Proofs.Manifest
import Converge.Resolver.RuleManager

/-! What a token tells of the name and the time that it is made of. The number stands behind the
last dash and can be read back, but for its sign: the sign of a time before 1970 is a dash too, and
so may be the last letter of a name. This is the only way in which two names come to one token. -/
namespace Converge

namespace Token

theorem append_dash_inj {front other digits figures : List Char} (bare : '-' ∉ digits)
    (plain : '-' ∉ figures) :
    front ++ '-' :: digits = other ++ '-' :: figures ↔ front = other ∧ digits = figures := by
  refine ⟨fun same => ?_, fun ⟨fronts, backs⟩ => by rw [fronts, backs]⟩
  rcases List.append_eq_append_iff.1 same with ⟨more, rfl, behind⟩ | ⟨more, rfl, behind⟩
  all_goals
    cases more with
    | nil => simpa [eq_comm] using behind
    | cons c rest =>
      -- The longer front has a dash of its own, which the other text has behind its last one.
      simp only [List.cons_append, List.cons.injEq] at behind
      simp [behind.2] at bare plain

theorem dash_notMem_digits (number : Nat) : '-' ∉ Nat.toDigits 10 number := by
  intro member
  have digit := Nat.isDigit_of_mem_toDigits (by decide) (by decide) member
  exact absurd digit (by decide)

theorem toDigits_inj {number other : Nat} :
    Nat.toDigits 10 number = Nat.toDigits 10 other ↔ number = other := by
  refine ⟨fun same => ?_, congrArg _⟩
  rw [← Nat.ofDigitChars_ten_toDigits (n := number), same, Nat.ofDigitChars_ten_toDigits]

/-- The name, with the sign of a negative number. -/
def front (name : String) (number : Int) : List Char :=
  name.toList ++ if number < 0 then ['-'] else []

theorem toList_stamp (name : String) (instant : Timestamp) :
    (stamp name instant).text.toList =
      front name instant.millis ++ '-' :: Nat.toDigits 10 instant.millis.natAbs := by
  have shape : (stamp name instant).text = name ++ "-" ++ instant.millis.repr := rfl
  rw [shape, front]
  cases instant.millis with
  | ofNat number => simp [Int.repr]
  | negSucc number => simp [Int.repr, Int.negSucc_lt_zero]

/-- Of two names the second is the first with a dash behind it, and their times are equally far
from the start of 1970, the first before and the second after it. -/
def Mirrored (name : String) (instant : Timestamp) (other : String) (later : Timestamp) : Prop :=
  other = name ++ "-" ∧ instant.millis < 0 ∧ later.millis = -instant.millis

theorem append_dash_eq_iff {name other : String} :
    name.toList ++ ['-'] = other.toList ↔ other = name ++ "-" := by
  rw [← String.toList_inj, String.toList_append, eq_comm]
  rfl

theorem stamp_eq_iff {name other : String} {instant later : Timestamp} :
    stamp name instant = stamp other later ↔
      name = other ∧ instant.millis = later.millis ∨
        Mirrored name instant other later ∨ Mirrored other later name instant := by
  have texts : stamp name instant = stamp other later ↔
      front name instant.millis = front other later.millis ∧
        instant.millis.natAbs = later.millis.natAbs := by
    rw [← toDigits_inj, ← append_dash_inj (dash_notMem_digits _) (dash_notMem_digits _),
      ← toList_stamp, ← toList_stamp]
    exact ⟨fun same => by rw [same], fun same => Token.mk.injEq .. ▸ String.toList_injective same⟩
  rw [texts]
  unfold front Mirrored
  -- Only times on both sides of 1970 put the dash of the sign against one of the names.
  by_cases early : instant.millis < 0
  · by_cases before : later.millis < 0
    · have numbers : instant.millis.natAbs = later.millis.natAbs ↔
          instant.millis = later.millis := by omega
      have never : instant.millis ≠ -later.millis ∧ later.millis ≠ -instant.millis := by omega
      simp [early, before, numbers, never, String.toList_inj]
    · have numbers : instant.millis.natAbs = later.millis.natAbs ↔
          later.millis = -instant.millis := by omega
      have never : instant.millis ≠ later.millis := by omega
      simp [early, before, numbers, never, append_dash_eq_iff]
  · by_cases before : later.millis < 0
    · have numbers : instant.millis.natAbs = later.millis.natAbs ↔
          instant.millis = -later.millis := by omega
      have never : instant.millis ≠ later.millis := by omega
      simp [early, before, numbers, never, eq_comm (a := name.toList), append_dash_eq_iff]
    · have numbers : instant.millis.natAbs = later.millis.natAbs ↔
          instant.millis = later.millis := by omega
      simp [early, before, numbers, String.toList_inj]

end Token

namespace Manager

variable {Call : Type} {Reply : Call → Type} {D O : Type}

/-- The names of the two and the times at which they were declared are confused by their tokens. -/
def Confuses (manager : Manager Call Reply D O) (one two : D) : Prop :=
  ∃ instant ∈ manager.createdAt one, ∃ later ∈ manager.createdAt two,
    Token.Mirrored (manager.name one) instant (manager.name two) later ∨
      Token.Mirrored (manager.name two) later (manager.name one) instant

theorem pairwise_token_iff (manager : Manager Call Reply D O) {specs : List D}
    (apart : (specs.map manager.name).Nodup)
    (dated : ∀ spec ∈ specs, ∃ instant, manager.createdAt spec = some instant)
    (now later : Timestamp) :
    specs.Pairwise fun one two =>
      manager.token one now = manager.token two later ↔ manager.Confuses one two := by
  refine (List.pairwise_map.1 apart).imp_of_mem ?_
  intro one two first second names
  obtain ⟨instant, declared⟩ := dated one first
  obtain ⟨moment, stated⟩ := dated two second
  simp [token, Confuses, declared, stated, Token.stamp_eq_iff, names]

end Manager

namespace Manifest

open Resolver

/-- Tokens tell the resources of a kind apart, in a valid manifest and whenever it is stamped, and
whenever the tokens are made. The only exception are two names of which one is the other with a dash
behind it, declared equally long before and after the start of 1970; it comes from the only way in
which tokens of different names are equal at all. -/
theorem tokens_distinguish {manifest : Manifest} (valid : manifest.validate = .ok ())
    (time now later : Timestamp) :
    ((manifest.stampCreation time).endpoints.Pairwise fun one two =>
        endpointManager.token one now = endpointManager.token two later ↔
          endpointManager.Confuses one two) ∧
      ((manifest.stampCreation time).rules.Pairwise fun one two =>
        ruleManager.token one now = ruleManager.token two later ↔
          ruleManager.Confuses one two) ∧
      ∀ (name other : String) (instant moment : Timestamp),
        Token.stamp name instant = Token.stamp other moment ↔
          name = other ∧ instant.millis = moment.millis ∨
            Token.Mirrored name instant other moment ∨
            Token.Mirrored other moment name instant := by
  have names := nodup_of_valid ((manifest.validate_stampCreation time).trans valid)
  refine ⟨endpointManager.pairwise_token_iff names.1 (fun spec member => ?_) now later,
    ruleManager.pairwise_token_iff names.2 (fun spec member => ?_) now later,
    fun name other instant moment => Token.stamp_eq_iff⟩
  all_goals
    obtain ⟨declared, -, rfl⟩ := List.mem_map.1 member
    exact ⟨_, rfl⟩

def eve : Timestamp where
  date := ⟨1969, 12, 31, by decide, by decide, by decide⟩
  hour := 23
  minute := 59
  second := 59
  nanosecond := 995000000
  hourInDay := by decide
  minuteInHour := by decide
  secondInMinute := by decide
  nanosecondInSecond := by decide

def dawn : Timestamp :=
  { Timestamp.epoch with nanosecond := 5000000, nanosecondInSecond := by decide }

def plainRule (name : String) (createdAt : Option Timestamp) : RuleSpec :=
  { (default : RuleSpec) with name, createdAt, domainName := "corp.example.", ruleType := .system }

def dashed : Manifest where
  endpoints := []
  rules := [plainRule "gate" (some eve), plainRule "gate-" (some dawn), plainRule "gate--" none]

theorem dashed_tokens :
    dashed.validate = .ok () ∧
      ruleManager.token (plainRule "gate" (some eve)) .epoch =
        ruleManager.token (plainRule "gate-" (some dawn)) .epoch ∧
      ruleManager.token (plainRule "gate" (some eve)) .epoch ≠
        ruleManager.token (plainRule "gate--" (some eve)) .epoch ∧
      ruleManager.token (plainRule "gate-" (some dawn)) .epoch ≠
        ruleManager.token (plainRule "gate--" (some eve)) .epoch := by
  have valid : dashed.validate = .ok () := by rfl
  have rules := (tokens_distinguish valid eve .epoch .epoch).2.1
  have stamped : (dashed.stampCreation eve).rules =
      [plainRule "gate" (some eve), plainRule "gate-" (some dawn), plainRule "gate--" (some eve)] :=
    rfl
  rw [stamped] at rules
  simp only [List.pairwise_cons, List.mem_cons, List.not_mem_nil, or_false, forall_eq_or_imp,
    forall_eq] at rules
  obtain ⟨⟨confused, first⟩, second, -⟩ := rules
  have mirrored : Token.Mirrored "gate" eve "gate-" dawn :=
    ⟨by decide +kernel, by decide +kernel, by decide +kernel⟩
  refine ⟨valid, confused.2 ⟨eve, rfl, dawn, rfl, .inl mirrored⟩, mt first.1 ?_, mt second.1 ?_⟩
  · rintro ⟨_, declared, _, stated, mirrored | mirrored⟩
    · exact absurd mirrored.1 (by decide +kernel)
    · exact absurd mirrored.1 (by decide +kernel)
  · rintro ⟨_, declared, _, stated, mirrored | mirrored⟩
    · cases declared
      exact absurd mirrored.2.1 (by decide +kernel)
    · exact absurd mirrored.1 (by decide +kernel)

/-- Two different rules of a valid manifest may share a token. -/
theorem not_always_distinguished :
    ¬∀ (manifest : Manifest) (time now later : Timestamp), manifest.validate = .ok () →
      (manifest.stampCreation time).rules.Pairwise fun one two =>
        ruleManager.token one now ≠ ruleManager.token two later := by
  intro always
  have rules := always dashed eve .epoch .epoch rfl
  have apart := List.rel_of_pairwise_cons rules List.mem_cons_self
  exact apart (by decide +kernel)

end Manifest

end Converge
