import Mathlib.Data.List.DropRight
import Converge.Proofs.Failures
import Converge.Proofs.Gates
import Converge.Proofs.Reconcile

/-! Domains of rules. A rule keeps its domain for good, so a pass that wants another one has failed
for good. A provider may write a domain with or without a dot at its end, and the case of letters
does not count. Every dot at the end is left out of the comparison, not one alone, so that two names
count as one that differ in all but their first final dots. -/
namespace Converge

open Provider Program

namespace Resolver

def SameLetters (a b : List Char) : Prop := a.map Char.toLower = b.map Char.toLower

def withoutDot (name : List Char) : List Char :=
  if name.getLast? = some '.' then name.dropLast else name

def finalDots (name : List Char) : Nat := (name.rtakeWhile (· = '.')).length

/-- Two names that are equal but for the case of letters, after one final dot was taken from each
that has any. -/
def SameButDot (a b : String) : Prop := SameLetters (withoutDot a.toList) (withoutDot b.toList)

/-- Two names that are equal but for the case of letters, after any number of final dots was taken
from each. -/
def SameButDots (a b : String) : Prop :=
  ∃ stem other count more, a.toList = stem ++ List.replicate count '.' ∧
    b.toList = other ++ List.replicate more '.' ∧ SameLetters stem other

instance (a b : List Char) : Decidable (SameLetters a b) := inferInstanceAs (Decidable (_ = _))

instance (a b : String) : Decidable (SameButDot a b) :=
  inferInstanceAs (Decidable (SameLetters _ _))

section Names

def withoutDots (name : List Char) : List Char := name.rdropWhile (· = '.')

theorem toLower_eq_dot_iff (c : Char) : c.toLower = '.' ↔ c = '.' := by
  unfold Char.toLower
  split
  · next upper =>
    have least := UInt32.le_iff_toNat_le.1 upper.1
    have most := UInt32.le_iff_toNat_le.1 upper.2
    constructor
    · intro same
      have values := congrArg (fun c => c.val.toNat) same
      simp at values least most
      omega
    · rintro rfl
      exact absurd upper (by decide)
  · exact Iff.rfl

theorem isDot_comp_toLower :
    (fun c : Char => decide (c = '.')) ∘ Char.toLower = fun c => decide (c = '.') := by
  funext c
  simp [toLower_eq_dot_iff]

theorem withoutDots_map_toLower (name : List Char) :
    withoutDots (name.map Char.toLower) = (withoutDots name).map Char.toLower := by
  simp only [withoutDots, List.rdropWhile, ← List.map_reverse, List.dropWhile_map,
    isDot_comp_toLower]

theorem finalDots_map_toLower (name : List Char) :
    finalDots (name.map Char.toLower) = finalDots name := by
  simp only [finalDots, List.rtakeWhile, ← List.map_reverse, List.takeWhile_map,
    isDot_comp_toLower, List.length_reverse, List.length_map]

theorem withoutDots_append (name : List Char) :
    withoutDots name ++ List.replicate (finalDots name) '.' = name := by
  have dots : List.replicate (finalDots name) '.' = name.rtakeWhile (· = '.') := by
    refine (List.eq_replicate_iff.2 ⟨rfl, fun c member => ?_⟩).symm
    simpa using List.mem_rtakeWhile_imp member
  rw [dots]
  exact List.rdropWhile_append_rtakeWhile

theorem withoutDots_concat (name : List Char) : withoutDots (name ++ ['.']) = withoutDots name :=
  List.rdropWhile_concat_pos _ _ _ rfl

theorem finalDots_concat (name : List Char) : finalDots (name ++ ['.']) = finalDots name + 1 := by
  simp [finalDots, List.rtakeWhile_concat_pos]

theorem withoutDots_append_replicate (stem : List Char) (count : Nat) :
    withoutDots (stem ++ List.replicate count '.') = withoutDots stem := by
  induction count with
  | zero => simp
  | succ count ih => rw [List.replicate_succ', ← List.append_assoc, withoutDots_concat, ih]

theorem withoutDot_parts (name : List Char) :
    withoutDots (withoutDot name) = withoutDots name ∧
      finalDots (withoutDot name) = finalDots name - 1 := by
  induction name using List.reverseRecOn with
  | nil => exact ⟨rfl, rfl⟩
  | append_singleton stem c _ =>
    by_cases dot : c = '.'
    · subst dot
      have taken : withoutDot (stem ++ ['.']) = stem := by simp [withoutDot]
      rw [taken, withoutDots_concat, finalDots_concat]
      exact ⟨rfl, rfl⟩
    · have same : withoutDot (stem ++ [c]) = stem ++ [c] := by simp [withoutDot, dot]
      have none : finalDots (stem ++ [c]) = 0 := by
        rw [finalDots, List.rtakeWhile_concat_neg _ _ _ (by simp [dot]), List.length_nil]
      rw [same, none]
      exact ⟨rfl, rfl⟩

theorem sameLetters_iff (a b : List Char) :
    SameLetters a b ↔ SameLetters (withoutDots a) (withoutDots b) ∧ finalDots a = finalDots b := by
  unfold SameLetters
  rw [← withoutDots_map_toLower, ← withoutDots_map_toLower, ← finalDots_map_toLower a,
    ← finalDots_map_toLower b]
  constructor
  · intro same
    rw [same]
    exact ⟨rfl, rfl⟩
  · rintro ⟨stems, dots⟩
    rw [← withoutDots_append (a.map _), ← withoutDots_append (b.map _), stems, dots]

theorem sameDomain_iff (a b : String) :
    sameDomain a b = true ↔ SameLetters (withoutDots a.toList) (withoutDots b.toList) := by
  unfold sameDomain
  exact decide_eq_true_iff

theorem sameDomain_iff_sameButDots (a b : String) : sameDomain a b = true ↔ SameButDots a b := by
  refine (sameDomain_iff a b).trans ⟨fun same => ?_, ?_⟩
  · exact ⟨_, _, _, _, (withoutDots_append _).symm, (withoutDots_append _).symm, same⟩
  · rintro ⟨stem, other, count, more, first, second, same⟩
    rw [first, second, withoutDots_append_replicate, withoutDots_append_replicate]
    exact ((sameLetters_iff _ _).1 same).1

theorem sameButDot_iff (a b : String) :
    SameButDot a b ↔
      SameButDots a b ∧ finalDots a.toList - 1 = finalDots b.toList - 1 := by
  have first := withoutDot_parts a.toList
  have second := withoutDot_parts b.toList
  rw [← sameDomain_iff_sameButDots, sameDomain_iff, SameButDot, sameLetters_iff, first.1, second.1,
    first.2, second.2]

end Names

end Resolver

theorem PassResult.isFatal_conclude_iff {O : Type} (codes : List String) (delays : PassDelays)
    (now : Timestamp) (prior : Conditions) (result : PassResult O) :
    (result.conclude codes delays now prior).outcome.isFatal = true ↔
      ∃ failure, result.ending = .failed failure ∧ failure.severity codes = .terminal := by
  unfold conclude
  split
  · next failure ending =>
    simp only [ending, Reconciled.ofFailure, PassEnding.failed.injEq, exists_eq_left']
    cases failure.severity codes <;> simp [Outcome.isFatal]
  all_goals next ending =>
    simp [ending, Reconciled.ofWaiting, Reconciled.ofSettled, Outcome.isFatal]

theorem Manager.part_update_of_refused {Call D O : Type} {Reply : Call → Type}
    {manager : Manager Call Reply D O} {desired : D} {observed : O} {failure : Failure}
    (paths : List String) (refused : manager.checkImmutable desired observed = .error failure) :
    manager.part desired (Pass.update paths observed) =
      .done ⟨some observed, .none, .failed failure⟩ := by
  rw [Pass.update, part_step, perform, refused]
  rfl

namespace Resolver.Rule

section Steps

variable {desired : RuleSpec} {observed : Rule} {sort : Failure → Prop}

theorem failsWith_known {α : Type} (what : String) (found : Option α)
    (lacks : ∀ message, sort (.validation message)) : FailsWith sort (known what found) := by
  cases found with
  | none => exact .error (lacks _)
  | some value => exact .ok value

variable (lacks : ∀ message, sort (.validation message))

include lacks

theorem failsOnly_syncTags : (syncTags desired observed).FailsOnly granted sort := by
  refine (Attempt.failsOnly_ofExcept (failsWith_known _ _ lacks)).bind fun arn => ?_
  refine Attempt.FailsOnly.bind (TagAccess.failsOnly_sync (fun _ => ?_) fun _ => ?_) fun _ =>
    Attempt.failsOnly_pure _
  all_goals exact failsOnly_granted _ sort

theorem failsOnly_update : (update desired observed).FailsOnly granted sort := by
  refine (Attempt.failsOnly_ofExcept (failsWith_known _ _ lacks)).bind fun id => ?_
  exact (failsOnly_granted _ sort).bind fun _ => Attempt.failsOnly_pure _

theorem always_syncAssociations_fails : (syncAssociations desired observed).Always granted
    (fun applied _ => ∀ failure ∈ applied.failure, sort failure) () := by
  unfold syncAssociations
  split
  · next failure unknown =>
    rintro _ ⟨⟩
    exact failsWith_known _ _ lacks _ unknown
  · next id _ =>
    refine (always_bind _ _ _ _).2 ((Collection.always_sync_of_kept
      (fun progress _ => ∀ failure ∈ progress.failure, sort failure) ?_ ?_ nofun).imp
      fun progress after fails => fails)
    · rintro progress association rest state - holds reply after ⟨value, rfl⟩
      exact holds
    · rintro progress vpcId rest state - holds reply after ⟨value, rfl⟩
      exact holds

theorem always_update_fails (paths : List String)
    (allowed : checkImmutable desired observed = .ok ()) :
    (ruleManager.part desired (Pass.update paths observed)).Always granted
      (fun result _ => result.FailsWith sort) () := by
  refine Manager.always_update_fails (fun _ => True) (fun _ => True) (fun failure refused => ?_)
    (fun state => ?_) (fun seen delta state _ => ?_) (fun seen delta _ => ?_) (fun _ _ => trivial)
    trivial
  · cases allowed.symm.trans refused
  · exact (failsOnly_syncTags lacks state).imp fun reply after fails => ⟨fails, fun _ _ => trivial⟩
  · exact (always_syncAssociations_fails lacks).imp fun applied after fails => ⟨fails, trivial⟩
  · exact failsOnly_update lacks

end Steps

section Judgement

variable {desired : RuleSpec} {observed : Rule}

theorem checkImmutable_eq_iff :
    checkImmutable desired observed =
        checkImmutable { desired with domainName := observed.spec.domainName } observed ↔
      sameDomain desired.domainName observed.spec.domainName = true := by
  have reflexive : sameDomain observed.spec.domainName observed.spec.domainName = true :=
    decide_eq_true rfl
  cases same : sameDomain desired.domainName observed.spec.domainName with
  | true => simp [checkImmutable, same, reflexive]
  | false =>
    refine iff_of_false (fun equal => ?_) Bool.false_ne_true
    simp only [checkImmutable, same, reflexive, Bool.not_false, Bool.not_true, Bool.false_eq_true,
      if_true, if_false] at equal
    split at equal
    · have heads := congrArg (fun message => message.toList.head?)
        (Failure.terminal.inj (Except.error.inj equal))
      simp [toString] at heads
    · cases equal

theorem terminal_of_checkImmutable {failure : Failure}
    (refused : checkImmutable desired observed = .error failure) :
    ∃ message, failure = .terminal message := by
  simp only [checkImmutable] at refused
  split at refused
  · exact ⟨_, (Except.error.inj refused).symm⟩
  · split at refused
    · exact ⟨_, (Except.error.inj refused).symm⟩
    · cases refused

variable {σ : Type} {serve : (call : Call) → σ → call.Reply × σ} {state : σ} {last : Option Rule}
  (finds : ((observe desired last).outcome.run serve state).1 = .ok (some observed))

include finds

theorem pass_of_refused (token : Token) {failure : Failure}
    (refused : checkImmutable desired observed = .error failure) :
    ((ruleManager.pass desired token last).run serve state).1 =
        ⟨some observed, .none, .failed failure⟩ ∧
      ∀ taken ∈ (ruleManager.pass desired token last).transcript serve state,
        taken.call.isLooking = true := by
  have looks := ((gated desired).looks last).forall_transcript serve state
  rw [Manager.run_pass_of_found finds, Manager.transcript_pass_of_found finds,
    Manager.part_update_of_refused _ refused]
  refine ⟨rfl, fun taken made => ?_⟩
  rw [transcript, List.append_nil] at made
  exact looks taken made

theorem pass_of_allowed (token : Token) (allowed : checkImmutable desired observed = .ok ())
    (fine : Faultless ((ruleManager.pass desired token last).transcript serve state)) :
    ((ruleManager.pass desired token last).run serve state).1.FailsWith
      fun failure => failure.severity ruleManager.terminalCodes ≠ .terminal := by
  rw [Manager.transcript_pass_of_found finds] at fine
  rw [Manager.run_pass_of_found finds]
  have update : (ruleManager.part desired (Pass.update ruleManager.collectionPaths
      observed)).Always granted
        (fun result _ => result.FailsWith fun failure =>
          failure.severity ruleManager.terminalCodes ≠ .terminal) () :=
    always_update_fails (fun message => nofun) _ allowed
  exact post_run_of_faultless update fun taken made => fine taken (List.mem_append_right _ made)

end Judgement

/-- Whether a domain counts as unchanged, and what comes of it in a pass that finds a rule of the
right type, whoever serves it. More names count as one than those that are equal but for one final
dot: how many there are beyond the first makes no difference either. -/
theorem domains_judged {σ : Type} (serve : (call : Call) → σ → call.Reply × σ) (state : σ)
    (token : Token) (last : Option Rule) (desired : RuleSpec) (observed : Rule)
    (delays : PassDelays) (now : Timestamp) (prior : Conditions) :
    let wanted := desired.domainName
    let there := observed.spec.domainName
    let pass := ruleManager.pass desired token last
    let reconciled := (pass.run serve state).1.conclude ruleManager.terminalCodes delays now prior
    (checkImmutable desired observed =
        checkImmutable { desired with domainName := there } observed ↔ SameButDots wanted there) ∧
    (SameButDot wanted there ↔
      SameButDots wanted there ∧ finalDots wanted.toList - 1 = finalDots there.toList - 1) ∧
    (((observe desired last).outcome.run serve state).1 = .ok (some observed) →
      desired.ruleType = observed.spec.ruleType → Faultless (pass.transcript serve state) →
      (reconciled.outcome.isFatal = true ↔ ¬SameButDots wanted there) ∧
      (reconciled.outcome.isFatal = true →
        ∀ taken ∈ pass.transcript serve state, taken.call.isLooking = true)) := by
  intro wanted there pass reconciled
  refine ⟨?_, sameButDot_iff wanted there, fun finds type fine => ?_⟩
  · exact checkImmutable_eq_iff.trans (sameDomain_iff_sameButDots _ _)
  · rw [← sameDomain_iff_sameButDots, PassResult.isFatal_conclude_iff]
    cases judged : checkImmutable desired observed with
    | error failure =>
      obtain ⟨result, looks⟩ := pass_of_refused finds token judged
      have differs : ¬sameDomain wanted there = true := fun same =>
        nomatch judged.symm.trans ((checkImmutable_eq_ok_iff _ _).2 ⟨same, type⟩)
      obtain ⟨message, rfl⟩ := terminal_of_checkImmutable judged
      have stopped : (pass.run serve state).1.ending = .failed (.terminal message) :=
        congrArg PassResult.ending result
      exact ⟨iff_of_true ⟨_, stopped, rfl⟩ differs, fun _ => looks⟩
    | ok =>
      have fails := pass_of_allowed finds token judged fine
      have mends : ¬∃ failure, (pass.run serve state).1.ending = .failed failure ∧
          failure.severity ruleManager.terminalCodes = .terminal :=
        fun ⟨failure, ending, terminal⟩ => fails failure ending terminal
      have same := ((checkImmutable_eq_ok_iff _ _).1 judged).1
      exact ⟨iff_of_false mends (not_not_intro same), fun fatal => absurd fatal mends⟩

def domainRule (domain : String) : RuleSpec where
  name := "internal"
  createdAt := some .epoch
  domainName := domain
  ruleType := .system
  resolverEndpointId := none
  resolverEndpointRef := none
  targetIps := []
  associations := []
  tags := ∅

/-- A pass that makes a rule. -/
def domainPass : Reconciled Rule × World :=
  ruleManager.reconcile {} (domainRule "corp.example") .unbounded none ∅ .still

/-- A later pass, for a domain that may be another one. -/
def renamingPass (domain : String) : Program Call Call.Reply (PassResult Rule) :=
  ruleManager.pass (domainRule domain) (ruleManager.token (domainRule domain) domainPass.2.now)
    domainPass.1.observed

theorem domains_judged_renamed :
    let outcome (domain : String) :=
      (((renamingPass domain).run (World.serve .unbounded) domainPass.2).1.conclude
        ruleManager.terminalCodes {} domainPass.2.now ∅).outcome
    (¬SameButDots "corp.other" "corp.example" ∧ (outcome "corp.other").isFatal = true ∧
      ∀ taken ∈ (renamingPass "corp.other").transcript (World.serve .unbounded) domainPass.2,
        taken.call.isLooking = true) ∧
    SameButDot "Corp.Example." "corp.example" ∧ (outcome "Corp.Example.").isFatal = false := by
  intro outcome
  have judged (domain : String) := (domains_judged (World.serve .unbounded) domainPass.2
    (ruleManager.token (domainRule domain) domainPass.2.now) domainPass.1.observed
    (domainRule domain) (domainPass.1.observed.getD default) {} domainPass.2.now ∅).2.2
  obtain ⟨refused, looks⟩ := judged "corp.other" (by decide +kernel) (by decide +kernel)
    (show Faultless ((renamingPass "corp.other").transcript _ _) by decide +kernel)
  obtain ⟨allowed, -⟩ := judged "Corp.Example." (by decide +kernel) (by decide +kernel)
    (show Faultless ((renamingPass "Corp.Example.").transcript _ _) by decide +kernel)
  have stored : (domainPass.1.observed.getD default).spec.domainName = "corp.example" := by
    decide +kernel
  rw [stored] at refused allowed
  have other : ¬SameButDots "corp.other" "corp.example" := by
    rw [← sameDomain_iff_sameButDots]
    decide +kernel
  have same : SameButDot "Corp.Example." "corp.example" := by decide +kernel
  have fatal := refused.2 other
  refine ⟨⟨other, fatal, looks fatal⟩, same, Bool.eq_false_iff.2 fun fatal => ?_⟩
  exact allowed.1 fatal ((sameButDot_iff _ _).1 same).1

/-- A name with one final dot too many is another name, and yet the pass is content with it. -/
theorem dots_overlooked :
    let desired := domainRule "corp.example.."
    let found := domainPass.1.observed.getD default
    ¬SameButDot desired.domainName found.spec.domainName ∧
    desired.ruleType = found.spec.ruleType ∧ checkImmutable desired found = .ok () ∧
    ((observe desired domainPass.1.observed).outcome.run (World.serve .unbounded)
      domainPass.2).1 = .ok (some found) ∧
    Faultless ((renamingPass "corp.example..").transcript (World.serve .unbounded) domainPass.2) ∧
    (((renamingPass "corp.example..").run (World.serve .unbounded) domainPass.2).1.conclude
      ruleManager.terminalCodes {} domainPass.2.now ∅).outcome.isFatal = false := by
  refine ⟨?_, ?_, ?_, ?_, ?_, ?_⟩
  all_goals decide +kernel

end Resolver.Rule

end Converge
