import Converge.Proofs.Provider.Mirrors

/-! Runs beside one another. The calls that a run makes for what it is about are answered alike on
its own and among others, and the calls that others make for something else change nothing for it. -/
namespace Converge.Provider

open Converge.Resolver

section Others

variable {base : Nat} {site : Site} {stake neighbour : Stake} {names : Renaming base}
  {alone shared after : Registry} {id : String} {call : Call}

theorem Call.Within.not_isFor (within : call.Within site stake) (apart : id ∉ stake.baseline) :
    ¬call.IsFor site .endpoint id := by
  intro named
  cases call with
  | getEndpoint | listAddresses | updateEndpoint | associateAddress | disassociateAddress =>
    obtain ⟨-, rfl⟩ := named
    exact apart within
  | listTags | tag | untag =>
    obtain ⟨other, known, shape⟩ := within
    exact apart ((arn_inj site (shape.symm.trans named)).2 ▸ known)
  | createEndpoint => exact named
  | _ => exact within

theorem Call.Within.token {identity : Identity} {token : String} (within : call.Within site stake)
    (creates : call.creation? = some (identity, token)) : token = stake.token := by
  cases call with
  | createEndpoint request =>
    cases creates
    exact within
  | createRule => exact within.elim
  | _ => cases creates

namespace Mirrors

variable (mirrors : Mirrors site stake names alone shared)

include mirrors

theorem share_of_within (within : call.Within site neighbour)
    (known : ∀ id ∈ neighbour.baseline, stake.others id) {reply : call.Reply}
    (answered : Answered site noRefusal call shared reply after)
    (settled : ¬Pending shared.serial id) (free : ¬stake.others id) :
    after.share site id .endpoint = shared.share site id .endpoint :=
  answered.share mirrors.sharedValid settled
    (within.not_isFor fun member => free (known id member))

theorem settled_of_token {entry : TokenEntry}
    (there : shared.endpointTokens.get? stake.token = some entry) :
    ¬Pending shared.serial entry.id := by
  have owned := (mirrors.sharedValid.endpointTokens stake.token entry.id).1 ⟨entry.name, there⟩
  obtain ⟨stored, held, -⟩ := Option.map_eq_some_iff.1 owned
  exact (mirrors.sharedValid.endpoint _ stored held).issued.not_pending

theorem token_of_within (within : call.Within site neighbour)
    (tokens : stake.token ≠ neighbour.token)
    (known : ∀ id ∈ neighbour.baseline, stake.others id) {reply : call.Reply}
    (answered : Answered site noRefusal call shared reply after) :
    after.endpointTokens.get? stake.token = shared.endpointTokens.get? stake.token := by
  cases there : shared.endpointTokens.get? stake.token with
  | none =>
    refine Option.eq_none_iff_forall_ne_some.2 fun entry found => ?_
    have found : (after.tokens .endpoint).get? stake.token = some entry := found
    rcases answered.tokens mirrors.sharedValid found with before | ⟨-, creates⟩
    · cases there.symm.trans before
    · exact tokens (within.token creates)
  | some entry =>
    have kept := mirrors.share_of_within within known answered (mirrors.settled_of_token there)
      (mirrors.clear entry there)
    have listed := congrArg (NameMap.get? · stake.token) (Share.endpoint.inj kept).2.2
    simp only [tokensOf, NameMap.get?_filter, there, Option.filter_some, decide_true, ↓reduceIte,
      Option.filter_eq_some_iff] at listed
    exact listed.1

theorem others (within : call.Within site neighbour) (tokens : stake.token ≠ neighbour.token)
    (known : ∀ id ∈ neighbour.baseline, stake.others id) {reply : call.Reply}
    (answered : Answered site noRefusal call shared reply after) :
    Mirrors site stake names alone after := by
  obtain ⟨valid, grown⟩ := answered.valid mirrors.sharedValid
  have same := mirrors.token_of_within within tokens known answered
  exact
    { fair := mirrors.fair
      valid := mirrors.valid
      sharedValid := valid
      bounded := fun number other paired => by
        have bound := mirrors.bounded number other paired
        omega
      baseline := fun id member => by
        refine (mirrors.baseline id member).of_share rfl
          (mirrors.share_of_within within known answered ?_ ?_)
        · exact fun pending =>
            mirrors.fair.baseline id member (pending.anti mirrors.bounded.base_le.2)
        · exact fun claimed => mirrors.fair.apart id claimed member
      token := by
        have before := mirrors.token
        rw [same]
        generalize alone.endpointTokens.get? stake.token = entry at before ⊢
        generalize there : shared.endpointTokens.get? stake.token = counterpart at before ⊢
        cases before with
        | none => exact .none
        | some alike =>
          have kept := mirrors.share_of_within within known answered
            (mirrors.settled_of_token there) (mirrors.clear _ there)
          exact .some { alike with held := alike.held.of_share rfl kept }
      clear := same.symm ▸ mirrors.clear }

theorem own {counterpart : Call} (calls : Corresponds site stake names call counterpart)
    {left : Registry} {reply : call.Reply} {answer : counterpart.Reply}
    (first : Answered site noRefusal call alone reply left)
    (second : Answered site noRefusal counterpart shared answer after) :
    ∃ later, names ≤ later ∧
      Tied (fun later => ToldAlike site later call counterpart) later reply answer ∧
      Mirrors site stake later left after := by
  cases first with
  | refused never => exact never.elim
  | done now done =>
    cases second with
    | refused never => exact never.elim
    | done now' done' =>
      have both := mirrors.perform calls now now'
      rw [done, done'] at both
      exact both
    | rejected now' rejected =>
      have both := mirrors.perform calls now now'
      rw [done, rejected] at both
      exact both.elim
  | rejected now rejected =>
    cases second with
    | refused never => exact never.elim
    | done now' done =>
      have both := mirrors.perform calls now now'
      rw [rejected, done] at both
      exact both.elim
    | rejected now' rejected' =>
      have both := mirrors.perform calls now now'
      rw [rejected, rejected'] at both
      exact ⟨names, le_rfl, both, mirrors⟩

end Mirrors

theorem Matches.self {registry : Registry} (valid : registry.Valid site) (id : String)
    (names : Renaming registry.serial) : Matches site names registry registry id id where
  stored := by
    cases held : registry.endpoints.get? id with
    | none => exact .none
    | some stored => exact .some (.self (valid.endpoint id stored held))
  tags := rfl

theorem Mirrors.self {registry : Registry} (valid : registry.Valid site)
    (fair : stake.Fair registry.serial)
    (clear : ∀ entry ∈ registry.endpointTokens.get? stake.token, ¬stake.others entry.id) :
    Mirrors site stake (Renaming.start registry.serial) registry registry where
  fair := fair
  valid := valid
  sharedValid := valid
  bounded := Renaming.start_bounded registry.serial
  baseline id _ := .self valid id _
  token := by
    cases known : registry.endpointTokens.get? stake.token with
    | none => exact .none
    | some entry =>
      obtain ⟨stored, held, -⟩ := Option.map_eq_some_iff.1
        ((valid.endpointTokens stake.token entry.id).1 ⟨entry.name, known⟩)
      have issued := (valid.endpoint entry.id stored held).issued
      exact .some ⟨rfl, Renaming.ids_self issued, .self valid entry.id _⟩
  clear := clear

end Others

section Pairing

variable {base : Nat}

def mirroring (base : Nat) (site : Site) (stake : Stake) :
    Pairing (Renaming base) Call Call.Reply where
  calls names call counterpart := Corresponds site stake names call counterpart
  replies names call counterpart reply answer :=
    Tied (fun later => ToldAlike site later call counterpart) names reply answer

variable {site : Site} {stake : Stake} {names : Renaming base}

theorem inStep_ask {call counterpart : Call} (calls : Corresponds site stake names call counterpart) :
    (ask call).outcome.InStep (mirroring base site stake)
      (Tied fun later => ToldAlike site later call counterpart) (ask counterpart).outcome names :=
  Program.inStep_request calls

theorem inStep_same (call : Call) (within : call.Within site stake)
    (unnamed : call.operation ≠ .disassociateAddress) :
    (ask call).outcome.InStep (mirroring base site stake)
      (Tied fun later => ToldAlike site later call call) (ask call).outcome names :=
  inStep_ask (.same within unnamed)

end Pairing

end Converge.Provider
