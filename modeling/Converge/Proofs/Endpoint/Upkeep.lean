import Converge.Proofs.Endpoint.Tracking
import Converge.Proofs.Provider.Holdings

/-! The worker of an endpoint knows its id. A pass that starts with the id of what is held, if there
is anything, ends with it, whatever fails on the way. -/
namespace Converge.Resolver.Endpoint

open Converge.Provider Program

variable {charge : Charge} {pageSize : Nat} {desired : EndpointSpec} {token : Token}
  {held : Option Held} {last : Option Endpoint}

def Mirrors (observed : Option Endpoint) (held : Option Held) : Prop :=
  observed.bind id? = held.map Held.id

theorem always_observe_mirrors (mirrors : Mirrors last held) :
    (observe desired last).outcome.Always (charge.answers pageSize) (fun reply after =>
      after = some held ∧ ∀ found, reply = .ok (some found) → Mirrors (some found) held)
      (some held) := by
  refine (Charge.always_quiet (asks_observe (fun _ => rfl) (fun _ _ => rfl) (fun _ => rfl)
    last)).and ?_
  unfold observe
  cases named : last.bind id? with
  | none => exact fun found same => nomatch same
  | some id =>
    refine (always_bind _ _ _ _).2 (Charge.always_ask_told (.quiet rfl) fun reply after told => ?_)
    cases reply with
    | error failure =>
      refine (always_pure _ _ _).2 fun found same => ?_
      split at same <;> cases same
    | ok record =>
      have own : record.id = id := told.2
      have shows : some record.id = held.map Held.id := own ▸ named.symm.trans mirrors
      refine Always.imp (?_ : Always _ (fun reply _ => ∀ result, reply = .ok result →
        Mirrors result held) _ _) fun reply _ holds found same => holds _ same
      refine Attempt.always_ok_bind fun addresses _ => Attempt.always_ok_bind fun tags _ => ?_
      refine (Attempt.always_outcome_pure _ _ _).2 fun result same => ?_
      cases same
      exact shows

theorem always_update_mirrors {observed : Endpoint} (mirrors : Mirrors (some observed) held)
    {paths : List String} :
    (endpointManager.part desired (Pass.update paths observed)).Always (charge.answers pageSize)
      (Within fun result held => Mirrors result.observed held) (some held) := by
  refine Manager.always_update_of_kept (fun seen state => state = some held ∧
    Mirrors (some seen) held) ?_ ?_ ?_ ?_ ?_ ⟨rfl, mirrors⟩
  · rintro seen _ ⟨rfl, holds⟩
    refine ((Charge.always_quiet (asks_syncTags (fun _ => rfl) fun _ => rfl)).and
      always_syncTags_rest).imp ?_
    rintro reply _ ⟨rfl, rest⟩
    cases reply with
    | error failure => exact ⟨rfl, holds⟩
    | ok updated => exact ⟨rfl, by simpa [rest updated rfl, Mirrors, id?] using holds⟩
  · rintro seen _ _ ⟨rfl, holds⟩
    refine ((Charge.always_quiet (asks_syncAddresses (fun _ _ => rfl) fun _ _ _ _ _ => rfl)).and
      always_syncAddresses_named).imp ?_
    rintro applied _ ⟨rfl, same⟩
    exact ⟨rfl, by simpa [Mirrors, same] using holds⟩
  · rintro seen changes failure _ ⟨rfl, holds⟩
    exact ⟨held, rfl, holds⟩
  · exact fun _ => ⟨held, rfl, mirrors⟩
  · rintro seen changes _ ⟨rfl, holds⟩
    refine (Manager.always_updatePrimary _ _ _ _).2 ?_
    split
    · refine (Attempt.always_outcome_bind _ _ _ _).2 ?_
      cases named : seen.id? with
      | none => exact ⟨held, rfl, holds⟩
      | some id =>
        refine (Attempt.always_outcome_bind _ _ _ _).2 (Charge.always_ask_told (.quiet rfl)
          fun reply after told => ?_)
        cases reply with
        | error failure =>
          obtain rfl : after = held := told
          exact ⟨after, rfl, holds⟩
        | ok record =>
          obtain ⟨rfl, same⟩ := told
          refine (Attempt.always_outcome_pure _ _ _).2 ⟨after, rfl, ?_⟩
          exact (congrArg some same).trans (named.symm.trans holds)
    · exact ⟨held, rfl, holds⟩

theorem always_pass_mirrors (own : charge.identity = (.endpoint, desired.name))
    (carries : charge.token = token.text) (mirrors : Mirrors last held) :
    (endpointManager.pass desired token last).Always (charge.answers pageSize)
      (Within fun result held => Mirrors result.observed held) (some held) := by
  refine (Manager.always_pass token last).2 ((always_observe_mirrors mirrors).imp ?_)
  rintro reply _ ⟨rfl, shows⟩
  match reply with
  | .error failure => exact ⟨held, rfl, mirrors⟩
  | .ok (some observed) => exact always_update_mirrors (shows observed rfl)
  | .ok none =>
    refine (Manager.always_create last token).2 ((Attempt.always_outcome_bind _ _ _ _).2
      (Charge.always_ask_told (.creates ?_) fun reply after told => ?_))
    · simp [Call.creation?, own, carries]
    · cases reply with
      | error failure =>
        obtain rfl : after = held := told
        exact ⟨after, rfl, mirrors⟩
      | ok record =>
        refine (Attempt.always_outcome_pure _ _ _).2 ((always_pure _ _ _).2 ⟨after, rfl, ?_⟩)
        exact told.2.symm

end Converge.Resolver.Endpoint
