import Converge.Proofs.Agent.Table
import Converge.Proofs.Calls
import Converge.Proofs.Rule.Associations
import Converge.Resolver.RuleManager

/-! Deleting a resource at a provider that serves every call. Deletion only takes away: what is gone
stays gone, and what is left of one resource does not depend on the others. An endpoint can always
be deleted, and a rule if its snapshot shows all its networks. -/
namespace Converge

open Provider Resolver

namespace Provider

def Call.isRemoval : Call → Bool
  | .deleteEndpoint _ | .deleteRule _ | .disassociateRule _ _ => true
  | _ => false

namespace Registry

structure Shrinks (before : Registry) (site : Site) (after : Registry) : Prop where
  valid : after.Valid site
  live : ∀ {kind id}, after.Live id kind → before.Live id kind
  vpcs : ∀ {id vpc}, vpc ∈ after.associatedVpcs id → vpc ∈ before.associatedVpcs id

namespace Shrinks

variable {site : Site} {first second third : Registry}

theorem refl (valid : first.Valid site) : first.Shrinks site first := ⟨valid, id, id⟩

theorem trans (before : first.Shrinks site second) (after : second.Shrinks site third) :
    first.Shrinks site third :=
  ⟨after.valid, fun live => before.live (after.live live),
    fun member => before.vpcs (after.vpcs member)⟩

end Shrinks

variable {site : Site} {now : Timestamp} {registry after : Registry} {id : String}

theorem associatedVpcs_subset
    (fewer : ∀ association ∈ after.associations, isActive association = true →
      association ∈ registry.associations) {vpc : String} (member : vpc ∈ after.associatedVpcs id) :
    vpc ∈ registry.associatedVpcs id := by
  obtain ⟨association, there, rule, vpc, active⟩ := (mem_associatedVpcs_iff _ _ _).1 member
  exact (mem_associatedVpcs_iff _ _ _).2
    ⟨association, fewer association there active, rule, vpc, active⟩

theorem live_deleteEndpoint (done : registry.deleteEndpoint id = .ok ((), after))
    {kind : ArnKind} {other : String} :
    after.Live other kind ↔ registry.Live other kind ∧ (kind = .endpoint → id ≠ other) := by
  obtain ⟨stored, -, rfl⟩ := deleteEndpoint_eq_ok_iff.1 done
  cases kind <;> simp [Live, NameMap.get?_erase, and_comm]

theorem live_deleteRule (done : registry.deleteRule id = .ok ((), after))
    {kind : ArnKind} {other : String} :
    after.Live other kind ↔ registry.Live other kind ∧ (kind = .rule → id ≠ other) := by
  obtain ⟨record, -, rfl⟩ := deleteRule_eq_ok done
  cases kind <;> simp [Live, NameMap.get?_erase, and_comm]

theorem not_live_of_deleteEndpoint {failure : Failure}
    (failed : registry.deleteEndpoint id = .error failure) :
    ¬registry.Live id .endpoint ∧ failure.isNotFound = true := by
  cases held : registry.endpoints.get? id with
  | none =>
    simp only [deleteEndpoint, endpoint, held] at failed
    cases failed
    exact ⟨fun live => live held, isNotFound_missingEndpoint id⟩
  | some stored => cases (deleteEndpoint_eq_ok_iff.2 ⟨stored, held, rfl⟩).symm.trans failed

theorem not_live_of_deleteRule {failure : Failure} (bare : registry.associatedVpcs id = [])
    (failed : registry.deleteRule id = .error failure) :
    ¬registry.Live id .rule ∧ failure.isNotFound = true := by
  unfold deleteRule at failed
  split at failed
  · next busy =>
    obtain ⟨association, member, active⟩ := List.any_eq_true.1 busy
    simp only [Bool.and_eq_true, decide_eq_true_eq] at active
    have there := (mem_associatedVpcs_iff registry id association.vpcId).2
      ⟨association, member, active.1, rfl, active.2⟩
    simp [bare] at there
  · cases held : registry.rules.get? id with
    | none =>
      simp only [rule, held] at failed
      cases failed
      exact ⟨fun live => live held, isNotFound_missingRule id⟩
    | some record =>
      simp only [rule, held] at failed
      cases failed

theorem shrinks_of_removal {call : Call} (removal : call.isRemoval = true)
    (valid : registry.Valid site) {value : call.Value}
    (done : registry.perform site now call = .ok (value, after)) : registry.Shrinks site after := by
  have left := (perform_valid valid now call done).1
  cases call with
  | deleteEndpoint id =>
    refine ⟨left, fun live => ((live_deleteEndpoint done).1 live).1, fun member => ?_⟩
    obtain ⟨stored, -, rfl⟩ := deleteEndpoint_eq_ok_iff.1 done
    exact member
  | deleteRule id =>
    refine ⟨left, fun live => ((live_deleteRule done).1 live).1, fun member => ?_⟩
    obtain ⟨record, -, rfl⟩ := deleteRule_eq_ok done
    exact associatedVpcs_subset (fun association there _ => (List.mem_filter.1 there).1) member
  | disassociateRule ruleId vpcId =>
    obtain ⟨associations, retired, rfl⟩ := disassociateRule_eq_ok_iff.1 done
    refine ⟨left, fun {kind id} live => by cases kind <;> exact live,
      associatedVpcs_subset fun association there active => ?_⟩
    obtain ⟨before, old, rest, shape, -, -, -, rfl⟩ := retireLast_eq_some retired
    rw [shape]
    rcases List.mem_append.1 there with early | late
    · exact List.mem_append_left _ early
    · rcases List.mem_cons.1 late with rfl | late
      · cases active
      · exact List.mem_append_right _ (List.mem_cons_of_mem _ late)
  | _ => cases removal

end Registry

section Programs

open Program

variable {site : Site} {refusal : Call → Failure → Prop} {registry : Registry} {α : Type}

theorem always_shrinks {program : Program Call Call.Reply α}
    (removes : program.Asks (Call.isRemoval · = true)) (valid : registry.Valid site) :
    program.Always (Answered site refusal) (fun _ after => registry.Shrinks site after)
      registry := by
  induction program generalizing registry with
  | done value => exact .refl valid
  | ask call next ih =>
    intro reply after answered
    have first : registry.Shrinks site after := by
      cases answered with
      | done now done => exact Registry.shrinks_of_removal removes.1 valid done
      | rejected | refused => exact .refl valid
    exact (ih reply (removes.2 reply) first.valid).imp fun _ _ rest => first.trans rest

end Programs

/-- The snapshot shows all that has to go before the resource can. -/
def ArnKind.Covers (registry : Registry) : (kind : ArnKind) → kind.Snapshot → Prop
  | .endpoint, _ => True
  | .rule, observed => ∀ id ∈ Rule.id? observed, ∀ vpc ∈ registry.associatedVpcs id,
    vpc ∈ RuleSpec.vpcs (Rule.spec observed)

theorem ArnKind.Covers.of_shrinks {kind : ArnKind} {observed : kind.Snapshot} {site : Site}
    {registry after : Registry} (covers : kind.Covers registry observed)
    (shrinks : registry.Shrinks site after) : kind.Covers after observed := by
  cases kind with
  | endpoint => trivial
  | rule => exact fun id named vpc member => covers id named vpc (shrinks.vpcs member)

end Provider

theorem Manager.asks_finalize {D O : Type} {manager : Manager Call Call.Reply D O}
    {allowed : Call → Prop} {observed : Option O}
    (asks : ∀ snapshot ∈ observed, (manager.delete snapshot).outcome.Asks allowed) :
    (manager.finalize observed).Asks allowed := by
  cases observed with
  | none => trivial
  | some snapshot =>
    refine Program.Asks.bind (asks snapshot rfl) fun reply => ?_
    cases reply <;> trivial

structure Manager.Clears {D : Type} (kind : ArnKind)
    (manager : Manager Call Call.Reply D kind.Snapshot) : Prop where
  removes : ∀ observed, (manager.delete observed).outcome.Asks (Call.isRemoval · = true)
  deletes : ∀ {site registry observed}, registry.Valid site → kind.Covers registry observed →
    (manager.delete observed).outcome.Always (Answered site noRefusal) (fun reply after =>
      (∀ failure, reply = .error failure → failure.isNotFound = true) ∧
        ∀ id ∈ kind.id? observed, ¬after.Live id kind) registry

theorem Manager.Clears.always_finalize {D : Type} {kind : ArnKind}
    {manager : Manager Call Call.Reply D kind.Snapshot} (clears : manager.Clears kind) {site : Site}
    {registry : Registry} {observed : Option kind.Snapshot} (valid : registry.Valid site)
    (covers : ∀ snapshot ∈ observed, kind.Covers registry snapshot) :
    (manager.finalize observed).Always (Answered site noRefusal) (fun reply after =>
      reply = .ok () ∧ registry.Shrinks site after ∧
        ∀ id ∈ observed.bind kind.id?, ¬after.Live id kind) registry := by
  cases observed with
  | none => exact ⟨rfl, .refl valid, by simp⟩
  | some snapshot =>
    refine (Program.always_bind _ _ _ _).2 (((always_shrinks (clears.removes snapshot) valid).and
      (clears.deletes valid (covers snapshot rfl))).imp ?_)
    rintro reply after ⟨shrinks, missing, gone⟩
    cases reply with
    | ok => exact ⟨rfl, shrinks, gone⟩
    | error failure =>
      simp only [missing failure rfl]
      exact ⟨rfl, shrinks, gone⟩

namespace Resolver

open Program

variable {site : Site} {registry : Registry}

theorem Endpoint.asks_delete {allowed : Call → Prop} (deletes : ∀ id, allowed (.deleteEndpoint id))
    (observed : Endpoint) : (endpointManager.delete observed).outcome.Asks allowed := by
  change (Endpoint.delete observed).outcome.Asks _
  unfold Endpoint.delete
  split
  · trivial
  · exact asks_request (deletes _)

theorem Endpoint.clears : endpointManager.Clears .endpoint where
  removes := Endpoint.asks_delete fun _ => rfl
  deletes {site registry observed} valid _ := by
    change (Endpoint.delete observed).outcome.Always _ _ _
    unfold Endpoint.delete
    split
    · next named => exact ⟨by simp, by simp [ArnKind.id?, named]⟩
    · next id named =>
      have own : ∀ other ∈ ArnKind.id? .endpoint observed, other = id := by
        simp [ArnKind.id?, named]
      refine always_ask (.deleteEndpoint id) (fun now value after done => ⟨by simp, ?_⟩)
        (fun now failure failed => ?_) fun _ never => never.elim
      · intro other member live
        exact ((Registry.live_deleteEndpoint done).1 live).2 rfl (own other member).symm
      · obtain ⟨gone, missing⟩ := Registry.not_live_of_deleteEndpoint failed
        refine ⟨fun _ same => ?_, fun other member => own other member ▸ gone⟩
        cases same
        exact missing

namespace Rule

theorem asks_detachAll {allowed : Call → Prop} {id : String}
    (detaches : ∀ vpcId, allowed (.disassociateRule id vpcId))
    (associations : List RuleAssociation) :
    (detachAll id associations).outcome.Asks allowed := by
  induction associations with
  | nil => trivial
  | cons association rest ih =>
    refine Attempt.asks_bind (Asks.bind (asks_request (detaches _)) fun reply => ?_) fun _ => ih
    cases reply <;> trivial

theorem asks_delete {allowed : Call → Prop} {observed : Rule}
    (detaches : ∀ id ∈ observed.id?, ∀ vpcId, allowed (.disassociateRule id vpcId))
    (deletes : ∀ id ∈ observed.id?, allowed (.deleteRule id)) :
    (ruleManager.delete observed).outcome.Asks allowed := by
  change (delete observed).outcome.Asks _
  unfold delete
  split
  · trivial
  · next id named =>
    exact Attempt.asks_bind (asks_detachAll (detaches id named) _) fun _ =>
      asks_request (deletes id named)

theorem always_detach_served {id : String} (valid : registry.Valid site) (vpcId : String) :
    (detach id vpcId).outcome.Always (Answered site noRefusal) (fun reply after =>
      reply = .ok () ∧ after.Valid site ∧ ∀ vpc ∈ after.associatedVpcs id,
        vpc ∈ registry.associatedVpcs id ∧ vpc ≠ vpcId) registry := by
  have detaches : ((associations id).detach vpcId).outcome.Always (Answered site noRefusal) _
      registry := always_detach honest_noRefusal ⟨valid, rfl, rfl, rfl⟩ vpcId
  refine ((Attempt.always_outcome_bind (detach id vpcId) _ _ _).1 detaches).imp ?_
  intro reply after left
  cases reply with
  | error failure => exact (not_refused failure left).elim
  | ok => exact ⟨rfl, left.1.valid, fun vpc member => (left.2.2 vpc).1 member⟩

theorem always_detachAll {id : String} (associations : List RuleAssociation)
    (valid : registry.Valid site) :
    (detachAll id associations).outcome.Always (Answered site noRefusal) (fun reply after =>
      reply = .ok () ∧ after.Valid site ∧ ∀ vpc ∈ after.associatedVpcs id,
        vpc ∈ registry.associatedVpcs id ∧ vpc ∉ associations.map RuleAssociation.vpcId)
      registry := by
  induction associations generalizing registry with
  | nil => exact ⟨rfl, valid, fun vpc member => ⟨member, List.not_mem_nil⟩⟩
  | cons association rest ih =>
    refine (Attempt.always_outcome_bind _ _ _ _).2
      ((always_detach_served valid association.vpcId).imp ?_)
    rintro _ middle ⟨rfl, valid, first⟩
    refine (ih valid).imp ?_
    rintro _ after ⟨rfl, valid, others⟩
    refine ⟨rfl, valid, fun vpc member => ?_⟩
    obtain ⟨there, unlisted⟩ := others vpc member
    obtain ⟨before, other⟩ := first vpc there
    exact ⟨before, by simpa [other] using unlisted⟩

theorem clears : ruleManager.Clears .rule where
  removes _ := asks_delete (fun _ _ _ => rfl) fun _ _ => rfl
  deletes {site registry observed} valid covers := by
    change (delete observed).outcome.Always _ _ _
    unfold delete
    split
    · next named => exact ⟨by simp, by simp [ArnKind.id?, named]⟩
    · next id named =>
      have own : ∀ other ∈ ArnKind.id? .rule observed, other = id := by simp [ArnKind.id?, named]
      refine (Attempt.always_outcome_bind _ _ _ _).2
        ((always_detachAll observed.spec.associations valid).imp ?_)
      rintro _ middle ⟨rfl, valid, left⟩
      have bare : middle.associatedVpcs id = [] := by
        refine List.eq_nil_iff_forall_not_mem.2 fun vpc member => ?_
        exact (left vpc member).2 (covers id named vpc (left vpc member).1)
      refine always_ask (.deleteRule id) (fun now value after done => ⟨by simp, ?_⟩)
        (fun now failure failed => ?_) fun _ never => never.elim
      · intro other member live
        exact ((Registry.live_deleteRule done).1 live).2 rfl (own other member).symm
      · obtain ⟨gone, missing⟩ := Registry.not_live_of_deleteRule bare failed
        refine ⟨fun _ same => ?_, fun other member => own other member ▸ gone⟩
        cases same
        exact missing

end Rule

end Resolver

end Converge
