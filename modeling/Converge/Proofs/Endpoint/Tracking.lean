import Converge.Proofs.Tracking
import Converge.Resolver.EndpointManager

/-! Passes over endpoints keep to one endpoint, the one of their token, and delete nothing. -/
namespace Converge.Resolver.Endpoint

open Converge.Provider Program

variable {site : Site} {desired : EndpointSpec} {token : Token} {registry : Registry}
  {observed : Endpoint}

theorem always_observe_named (last : Option Endpoint) :
    (observe desired last).outcome.Always (Shared site)
      (fun reply _ => ∀ result, reply = .ok result → ∀ found ∈ result, found.id? = last.bind id?)
      registry := by
  unfold observe
  cases last.bind id? with
  | none =>
    intro result same
    cases same
    exact fun found => nofun
  | some id =>
    refine (always_bind _ _ _ _).2 (always_ask_shared (.getEndpoint id) ?_ ?_)
    · intro now middle record after valid keeps done
      have named : record.id = id := by
        obtain ⟨got, -⟩ := Registry.look_eq_ok_iff.1 done
        cases held : middle.endpoint id with
        | error failure =>
          rw [held] at got
          cases got
        | ok stored =>
          rw [held] at got
          cases got
          exact (valid.endpoint id stored (Registry.endpoint_eq_ok_iff.1 held)).keyed
      refine Attempt.always_ok_bind fun addresses _ => Attempt.always_ok_bind fun tags _ => ?_
      refine (Attempt.always_outcome_pure _ _ _).2 fun result same found there => ?_
      cases same
      cases there
      exact congrArg some named
    · intro failure after
      refine (always_pure _ _ _).2 fun result same found there => ?_
      split at same <;> cases same
      cases there

theorem always_create_owned :
    (create desired token).outcome.Always (Shared site) (fun reply after => ∀ created,
      reply = .ok created → Owned .endpoint id? token (some created) after) registry := by
  refine (Attempt.always_outcome_bind _ _ _ _).2 (always_ask_shared (.createEndpoint _) ?_ ?_)
  · intro now middle record after valid keeps done
    refine (Attempt.always_outcome_pure _ _ _).2 fun created same id named => ?_
    cases same
    cases named
    exact Registry.tokenOf_createEndpoint valid done
  · exact fun _ _ _ same => nomatch same

theorem always_update_named (delta : Delta) :
    (update desired observed delta).outcome.Always (Shared site)
      (fun reply _ => ∀ updated, reply = .ok updated → updated.id? = observed.id?) registry := by
  unfold update
  cases observed.id? with
  | none => exact fun _ same => nomatch same
  | some id =>
    refine (Attempt.always_outcome_bind _ _ _ _).2 ?_
    refine (Attempt.always_outcome_ofExcept _ _ _).2 ?_
    refine (Attempt.always_outcome_bind _ _ _ _).2 (always_ask_shared (.updateEndpoint id _) ?_ ?_)
    · intro now middle record after valid keeps done
      obtain ⟨stored, held, rfl, -⟩ := Registry.updateEndpoint_eq_ok_iff.1 done
      refine (Attempt.always_outcome_pure _ _ _).2 fun updated same => ?_
      cases same
      exact congrArg some (valid.endpoint id stored held).keyed
    · exact fun _ _ _ same => nomatch same

section Syncs

variable {σ : Type} {answers : Answers Call Call.Reply σ} {state : σ}

theorem always_syncTags_rest : (syncTags desired observed).outcome.Always answers
    (fun reply _ => ∀ updated, reply = .ok updated →
      updated = { observed with spec := { observed.spec with tags := desired.tags } }) state := by
  refine Attempt.always_ok_bind fun arn _ => Attempt.always_ok_bind fun plan _ => ?_
  exact (Attempt.always_outcome_pure _ _ _).2 fun updated same => (Except.ok.inj same).symm

theorem always_syncAddresses_named : (syncAddresses desired observed).Always answers
    (fun applied _ => applied.observed.id? = observed.id?) state := by
  unfold syncAddresses
  split
  · exact (always_pure _ _ _).2 rfl
  · exact (always_bind _ _ _ _).2 (.of_forall fun progress _ => (always_pure _ _ _).2 rfl)

end Syncs

theorem tracks : endpointManager.Tracks site .endpoint id? desired token where
  observe last _ := always_observe_named last
  create _ := always_create_owned
  afterCreate _ _ := (always_pure _ _ _).2 rfl
  syncTags observed registry :=
    always_syncTags_rest.imp fun _ _ rest updated same => by simp [rest updated same, id?]
  syncCollections _ _ _ := always_syncAddresses_named
  update _ delta _ := always_update_named delta

section Calls

variable {allowed : Call → Prop}

theorem asks_syncTags
    (tags : ∀ arn, allowed (.tag arn (tagDiff desired.tags observed.spec.tags).added))
    (untags : ∀ arn, allowed (.untag arn (tagDiff desired.tags observed.spec.tags).removed)) :
    (syncTags desired observed).outcome.Asks allowed := by
  refine Attempt.asks_bind (Attempt.asks_ofExcept _) fun arn =>
    Attempt.asks_bind ?_ fun _ => trivial
  exact TagAccess.asks_sync (asks_ask (tags arn)) (asks_ask (untags arn))

theorem asks_syncAddresses (associates : ∀ id request, allowed (.associateAddress id request))
    (disassociates : ∀ id subnet ipId, subnet ∉ desired.ipAddresses.map AddressRequest.subnetId →
      observed.ipIdFor? subnet = some ipId → allowed (.disassociateAddress id ipId)) :
    (syncAddresses desired observed).Asks allowed := by
  unfold syncAddresses
  split
  · trivial
  · next id _ =>
    refine (Collection.asks_sync (fun item _ => ?_) fun subnet removed => ?_).bind fun _ => trivial
    · exact Attempt.asks_bind (asks_ask (associates id item)) fun _ => trivial
    · have unwanted := ((mem_removed_iff _ _ _ subnet).1 removed).2
      simp only [addresses] at unwanted ⊢
      split
      · trivial
      · next ipId known =>
        exact Attempt.asks_bind (asks_ask (disassociates id subnet ipId unwanted known))
          fun _ => trivial

theorem asks_observe (gets : ∀ id, allowed (.getEndpoint id))
    (lists : ∀ id token, allowed (.listAddresses id token))
    (listsTags : ∀ arn, allowed (.listTags arn)) (last : Option Endpoint) :
    (observe desired last).outcome.Asks allowed := by
  unfold observe
  split
  · trivial
  · next id _ =>
    refine Asks.bind (asks_ask (gets id)) fun reply => ?_
    cases reply with
    | error failure => trivial
    | ok record =>
      refine Attempt.asks_bind (Walk.asks_collect fun token => asks_ask (lists id token))
        fun _ => ?_
      exact Attempt.asks_bind (TagAccess.asks_fetch (asks_ask (listsTags record.arn)))
        fun _ => trivial

theorem asks_update (updates : ∀ id update, allowed (.updateEndpoint id update))
    (delta : Delta) : (update desired observed delta).outcome.Asks allowed := by
  refine Attempt.asks_bind (Attempt.asks_ofExcept _) fun id => ?_
  exact Attempt.asks_bind (asks_ask (updates id _)) fun _ => trivial

end Calls

theorem asks_pass (last : Option Endpoint) :
    (endpointManager.pass desired token last).Asks (Call.IsProper token) := by
  have plain : ∀ call : Call, call.isPlain = true → call.IsProper token := fun _ => .of_plain
  refine Manager.asks_pass fun step allowed => ?_
  cases step with
  | observe last =>
    exact asks_observe (fun _ => plain _ rfl) (fun _ _ => plain _ rfl) (fun _ => plain _ rfl) last
  | create other =>
    cases allowed
    exact Attempt.asks_bind (asks_ask ⟨⟨nofun, nofun⟩, fun _ same => (Option.some.inj same).symm⟩)
      fun _ => trivial
  | syncTags observed => exact asks_syncTags (fun _ => plain _ rfl) fun _ => plain _ rfl
  | syncCollections observed _ =>
    exact asks_syncAddresses (fun _ _ => plain _ rfl) fun _ _ _ _ _ => plain _ rfl
  | update observed delta => exact asks_update (fun _ _ => plain _ rfl) delta
  | delete => exact allowed.elim
  | afterCreate | checkImmutable | delta | needsRefresh | settled => trivial

end Converge.Resolver.Endpoint
