import Converge.Proofs.Endpoint.Confirmation
import Converge.Proofs.Rule.Confirmation

/-! A pass that has converged can be believed: whoever looks right after it finds what is desired.
A detachment that is refused because nothing is there counts as done, and is not looked into. What
a creation returns repeats what is desired, whatever the provider has answered, so a pass that
creates under a token that stands for something else converges on what is not there. -/
namespace Converge

open Provider Resolver

/-- Between two moments some detachment was made to fail as if there had been nothing to detach. -/
def Provider.World.Misled (before after : World) : Prop :=
  ∃ fault ∈ before.journal.faults, fault.operation = .disassociateRule ∧
    fault.code = Failure.notFoundCode ∧
    before.journal.count .disassociateRule < fault.number ∧
    fault.number ≤ after.journal.count .disassociateRule

instance (before after : World) : Decidable (World.Misled before after) :=
  inferInstanceAs (Decidable (∃ fault ∈ _, _))

namespace Manager

open PassResult

/-- A pass that has converged, whatever it started from, whatever failed or ran late on the way:
the provider holds what is desired, unless the pass created the resource under a token that stood
for something else, or was misled about a detachment. -/
theorem converged_confirms {world : World} (reached : world.Reachable) (bounds : Bounds)
    (delays : PassDelays) (prior : Conditions) :
    (∀ (desired : EndpointSpec) (last : Option Endpoint),
      let (result, after) := endpointManager.reconcile delays desired bounds last prior world
      let token := endpointManager.token desired world.now
      result.outcome = .converged → after.registry.HasRoom 0 →
        (result.changes.created = true → Endpoint.TokenHolds desired world.registry token) →
        endpointManager.Confirms desired result.observed after) ∧
    ∀ (desired : RuleSpec) (last : Option Rule),
      let (result, after) := ruleManager.reconcile delays desired bounds last prior world
      let token := ruleManager.token desired world.now
      result.outcome = .converged → after.registry.HasRoom 0 →
        (result.changes.created = true → Rule.TokenBegun desired world.registry token) →
        ¬World.Misled world after → ruleManager.Confirms desired result.observed after := by
  obtain ⟨valid, sized⟩ := reached.valid
  constructor
  · intro desired last converged room fits
    let pass := endpointManager.pass desired (endpointManager.token desired world.now) last
    have early := Nat.le_trans (reached.serial_le_run bounds pass) room.serial_le
    have kept := World.post_run pass anyRefusal (fun _ _ _ => trivial)
      (fun _ _ _ _ _ _ _ => trivial) (Endpoint.always_pass_kept valid sized early)
      (settled_of_outcome converged) fun created => fits (by rwa [changes_conclude])
    rw [observed_conclude]
    exact kept.confirms (reached.run bounds pass) room
  · intro desired last converged room fits honest
    let pass := ruleManager.pass desired (ruleManager.token desired world.now) last
    have early := Nat.le_trans (reached.serial_le_run bounds pass) room.serial_le
    -- Refusals may be as they like, but none makes an association seem to be missing.
    let refusal (call : Call) (failure : Failure) : Prop :=
      call.operation = .disassociateRule → failure.isNotFound = false
    have kept := World.post_run pass refusal
      (fun call failure cut _ => by rcases cut with rfl | rfl <;> rfl)
      (fun fault member above below call kind message detaches => by
        have other : fault.code ≠ Failure.notFoundCode := fun missing =>
          honest ⟨fault, member, kind.symm.trans detaches, missing, by
            rw [← detaches, kind]
            exact ⟨above, below⟩⟩
        simp [Failure.isNotFound, Failure.code?, other])
      (Rule.always_pass_kept (fun _ _ _ refused => refused rfl) valid sized early)
      (settled_of_outcome converged) fun created => fits (by rwa [changes_conclude])
    rw [observed_conclude]
    exact kept.confirms (reached.run bounds pass) room

/-- An endpoint in two subnets, without tags. -/
def plainEndpoint : EndpointSpec where
  name := "inbound"
  createdAt := some .epoch
  direction := .inbound
  endpointType := none
  securityGroupIds := ["sg-1"]
  ipAddresses := [⟨"subnet-a", none, none⟩, ⟨"subnet-b", none, none⟩]
  tags := ∅

def plainRule (vpcId : String) : RuleSpec where
  name := "internal"
  createdAt := some .epoch
  domainName := "corp.example."
  ruleType := .system
  resolverEndpointId := none
  resolverEndpointRef := none
  targetIps := []
  associations := [⟨vpcId⟩]
  tags := ∅

/-- What a first pass returns and leaves behind. -/
def firstEndpoint : Reconciled Endpoint × World :=
  endpointManager.reconcile {} plainEndpoint .unbounded none ∅ .still

def firstRule : Reconciled Rule × World :=
  ruleManager.reconcile {} (plainRule "vpc-1") .unbounded none ∅ .still

def misleading (number : Nat) : World :=
  { firstRule.2 with
    journal := firstRule.2.journal.failNth ⟨.disassociateRule, number, Failure.notFoundCode⟩ }

/-- Exchanges the network of the rule. -/
def secondRule (number : Nat) : Reconciled Rule × World :=
  ruleManager.reconcile {} (plainRule "vpc-2") .unbounded firstRule.1.observed ∅ (misleading number)

theorem firstEndpoint_reachable : firstEndpoint.2.Reachable := reachable_reconcile _ _ _ .still

theorem misleading_reachable (number : Nat) : (misleading number).Reachable :=
  (reachable_reconcile _ _ _ .still).arranged _

theorem converged_confirms_repeated :
    (let (result, after) :=
        endpointManager.reconcile {} plainEndpoint .unbounded none ∅ firstEndpoint.2
     result.changes.created = true ∧
       endpointManager.Confirms plainEndpoint result.observed after) ∧
    (secondRule 2).1.changes.collections = true ∧
      ruleManager.Confirms (plainRule "vpc-2") (secondRule 2).1.observed (secondRule 2).2 := by
  constructor
  · have fits : Endpoint.TokenHolds plainEndpoint firstEndpoint.2.registry
        (endpointManager.token plainEndpoint firstEndpoint.2.now) := by
      intro entry known
      have same : entry = ⟨"rslvr-in-00000000000000001", "inbound"⟩ := by
        refine Option.some.inj (known.symm.trans ?_)
        decide +kernel
      subst same
      decide +kernel
    exact ⟨by decide +kernel, (converged_confirms firstEndpoint_reachable .unbounded {} ∅).1
      plainEndpoint none (by decide +kernel) (by decide +kernel) fun _ => fits⟩
  · have found : (secondRule 2).1.changes.created = false := by decide +kernel
    have candid : ¬World.Misled (misleading 2) (secondRule 2).2 := by decide +kernel
    exact ⟨by decide +kernel, (converged_confirms (misleading_reachable 2) .unbounded {} ∅).2
      (plainRule "vpc-2") firstRule.1.observed (by decide +kernel) (by decide +kernel)
      (fun created => absurd (found.symm.trans created) nofun) candid⟩

/-- A token that is known answers with an endpoint of the other direction and with a rule for
another domain, and the passes that get these answers have converged. -/
theorem converged_unconfirmed :
    (let desired := { plainEndpoint with direction := .outbound }
     let (result, after) := endpointManager.reconcile {} desired .unbounded none ∅ firstEndpoint.2
     firstEndpoint.2.Reachable ∧ result.outcome = .converged ∧
       ¬endpointManager.Confirms desired result.observed after) ∧
    (let desired := { plainRule "vpc-1" with domainName := "other.example." }
     let (result, after) := ruleManager.reconcile {} desired .unbounded none ∅ firstRule.2
     firstRule.2.Reachable ∧ result.outcome = .converged ∧
       ¬ruleManager.Confirms desired result.observed after) := by
  refine ⟨⟨firstEndpoint_reachable, ?_, ?_⟩, reachable_reconcile _ _ _ .still, ?_, ?_⟩
  all_goals decide +kernel

-- A detachment that is refused as if nothing were there leaves the network with the rule.
example : (secondRule 1).1.outcome = .converged ∧
    ¬ruleManager.Confirms (plainRule "vpc-2") (secondRule 1).1.observed (secondRule 1).2 := by
  decide +kernel

end Manager

end Converge
