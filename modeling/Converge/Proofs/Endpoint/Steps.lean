import Converge.Proofs.Collections
import Converge.Proofs.Endpoint.Snapshot

/-! What the steps of a pass do to an endpoint that the registry holds. A step either does all it is
meant to do or reports a failure that some call was refused with. -/
namespace Converge.Resolver.Endpoint

open Converge.Provider

variable {site : Site} {refusal : Call → Failure → Prop} {registry : Registry} {id : String}
  {stored : StoredEndpoint} {tags : Tags} {desired : EndpointSpec} {observed : Endpoint}

theorem always_syncTags (tagged : registry.tags.get? stored.record.arn = some tags) :
    (syncTags desired (ofStored desired stored tags)).outcome.Always (Answered site refusal)
      (fun reply after => match reply with
        | .ok updated => updated = ofStored desired stored desired.tags ∧
            after = registry.withTags stored.record.arn desired.tags
        | .error failure => Refused refusal failure) registry := by
  refine (Attempt.always_outcome_bind _ _ _ _).2 ?_
  refine (Attempt.always_outcome_ofExcept _ _ _).2 ?_
  refine (Attempt.always_outcome_bind _ _ _ _).2 ((always_sync tagged desired.tags).imp ?_)
  intro reply after synced
  cases reply with
  | error failure => exact synced
  | ok plan => exact ⟨rfl, synced⟩

def sentUpdate (desired : EndpointSpec) (delta : Delta) : EndpointUpdate where
  name := if delta.differentAt namePath then some desired.name else none
  endpointType := if delta.differentAt endpointTypePath then desired.endpointType else none

theorem always_update (held : registry.endpoints.get? id = some stored)
    (named : observed.id? = some id) (delta : Delta) :
    (update desired observed delta).outcome.Always (Answered site refusal)
      (fun reply after => match reply with
        | .ok updated => ∃ now new,
            new = Registry.updatedEndpoint now (sentUpdate desired delta) stored ∧
            updated.status = statusOf new.record observed.status.ipAddresses ∧
            after = { registry with endpoints := registry.endpoints.insert id new }
        | .error failure => Refused refusal failure) registry := by
  unfold update
  rw [named]
  refine (Attempt.always_outcome_bind _ _ _ _).2 ?_
  refine (Attempt.always_outcome_ofExcept _ _ _).2 ?_
  refine (Attempt.always_outcome_bind _ _ _ _).2 ?_
  refine always_succeed (.updateEndpoint id (sentUpdate desired delta)) (fun now => ?_)
    fun failure refused => ⟨_, refused⟩
  exact ⟨_, _, Registry.updateEndpoint_eq_ok_iff.2 ⟨stored, held, rfl, rfl⟩, now, _, rfl, rfl, rfl⟩

theorem updatedEndpoint_agrees (desired : EndpointSpec) (now : Timestamp)
    (name : stored.record.name = observed.spec.name)
    (kind : observed.spec.endpointType = some stored.record.endpointType) :
    let new := Registry.updatedEndpoint now (sentUpdate desired (delta desired observed)) stored
    new.record.name = desired.name ∧
      ∀ wanted ∈ desired.endpointType, new.record.endpointType = wanted := by
  constructor
  · show (if (delta desired observed).differentAt namePath then some desired.name
      else none).getD stored.record.name = desired.name
    rw [differentAt_name]
    by_cases same : desired.name = observed.spec.name
    · simp [same, name]
    · simp [same]
  · intro wanted asked
    show (if (delta desired observed).differentAt endpointTypePath then desired.endpointType
      else none).getD stored.record.endpointType = wanted
    cases differs : (delta desired observed).differentAt endpointTypePath with
    | true => simp [Option.mem_def.1 asked]
    | false =>
      have agrees := (differentAt_endpointType desired observed).1 differs wanted asked
      simpa [kind] using agrees

end Converge.Resolver.Endpoint
