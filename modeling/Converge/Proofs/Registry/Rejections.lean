import Converge.Proofs.Registry.Effects

/-! Rejected calls. A registry names one of its codes for every rejection, so that a rejected call
is told from one that was cut off and from anything that goes wrong without a call. -/
namespace Converge

/-- If there is a failure, it is of some sort. -/
def FailsWith {α : Type} (sort : Failure → Prop) (result : Except Failure α) : Prop :=
  ∀ failure, result = .error failure → sort failure

namespace FailsWith

variable {α β : Type} {sort : Failure → Prop}

theorem ok (value : α) : FailsWith sort (.ok value) := nofun

theorem error {failure : Failure} (sorted : sort failure) :
    FailsWith sort (.error failure : Except Failure α) :=
  fun _ same => Except.error.inj same ▸ sorted

theorem bind {first : Except Failure α} {next : α → Except Failure β} (one : FailsWith sort first)
    (rest : ∀ value, FailsWith sort (next value)) : FailsWith sort (first >>= next) := by
  cases first with
  | error failure => exact .error (one failure rfl)
  | ok value => exact rest value

theorem map {found : Except Failure α} (fails : FailsWith sort found) (f : α → β) :
    FailsWith sort (found.map f) := by
  cases found with
  | error failure => exact .error (fails failure rfl)
  | ok value => exact .ok _

end FailsWith

namespace Provider

open Resolver

def IsCoded (failure : Failure) : Prop := ∃ code message, failure = .provider code message

abbrev Coded {α : Type} (result : Except Failure α) : Prop := FailsWith IsCoded result

theorem coded_error {α : Type} (code message : String) :
    Coded (.error (.provider code message) : Except Failure α) := .error ⟨code, message, rfl⟩

theorem coded_paginate {α : Type} (pageSize : Nat) (items : List α) (token : Option String) :
    Coded (paginate pageSize items token) := by
  unfold paginate
  simp only
  split
  · exact .ok _
  · split
    · exact .ok _
    · exact coded_error _ _

namespace Registry

variable {site : Site} {now : Timestamp} (registry : Registry)

theorem coded_endpoint (id : String) : Coded (registry.endpoint id) := by
  unfold endpoint
  split
  · exact .ok _
  · exact coded_error _ _

theorem coded_rule (id : String) : Coded (registry.rule id) := by
  unfold rule
  split
  · exact .ok _
  · exact coded_error _ _

theorem coded_tagsAt (arn : String) : Coded (registry.tagsAt arn) := by
  unfold tagsAt
  split
  · exact .ok _
  · exact coded_error _ _

theorem coded_checkRule (request : RuleRequest) : Coded (registry.checkRule request) := by
  unfold checkRule
  split
  · exact coded_error _ _
  · split
    · split
      · exact coded_error _ _
      · split
        · exact coded_error _ _
        · exact (registry.coded_endpoint _).bind fun _ => .ok _
    · split
      · exact .ok _
      · exact coded_error _ _

theorem coded_perform (call : Call) : Coded (registry.perform site now call) := by
  cases call with
  | getEndpoint id => exact ((registry.coded_endpoint id).map _).map _
  | listAddresses id token =>
    exact ((registry.coded_endpoint id).bind fun _ => coded_paginate _ _ _).map _
  | getRule id => exact (registry.coded_rule id).map _
  | listAssociations id token => exact (coded_paginate _ _ _).map _
  | listTags arn => exact ((registry.coded_tagsAt arn).map _).map _
  | tag arn tags => exact (registry.coded_tagsAt arn).bind fun _ => .ok _
  | untag arn keys => exact (registry.coded_tagsAt arn).bind fun _ => .ok _
  | updateEndpoint id update => exact (registry.coded_endpoint id).bind fun _ => .ok _
  | deleteEndpoint id => exact (registry.coded_endpoint id).bind fun _ => .ok _
  | associateAddress id request =>
    refine (registry.coded_endpoint id).bind fun stored => ?_
    split <;> exact .ok _
  | disassociateAddress id ipId =>
    refine (registry.coded_endpoint id).bind fun stored => ?_
    split
    · exact .ok _
    · split
      · exact coded_error _ _
      · exact .ok _
  | createEndpoint request =>
    show Coded (registry.createEndpoint site now request)
    unfold createEndpoint
    split
    · split
      · exact coded_error _ _
      · exact (registry.coded_endpoint _).bind fun _ => .ok _
    · split
      · exact coded_error _ _
      · split
        · exact coded_error _ _
        · exact .ok _
  | createRule request =>
    show Coded (registry.createRule site now request)
    unfold createRule
    split
    · split
      · exact coded_error _ _
      · exact (registry.coded_rule _).bind fun _ => .ok _
    · exact (registry.coded_checkRule request).bind fun _ => .ok _
  | updateRule id update =>
    have rest : Coded (do
        let record ← registry.rule id
        if record.ruleType = .forward && update.targetIps = some [] then
          .error (invalidRequest "a FORWARD rule needs target ips")
        else
          pure (updatedRule now update record, { registry with
            rules := registry.rules.insert id (updatedRule now update record) }) :
          Except Failure (RuleRecord × Registry)) := by
      refine (registry.coded_rule id).bind fun record => ?_
      split
      · exact coded_error _ _
      · exact .ok _
    obtain ⟨name, endpointId, targetIps⟩ := update
    cases endpointId with
    | none => exact rest
    | some endpointId => exact (registry.coded_endpoint endpointId).bind fun _ => rest
  | deleteRule id =>
    show Coded (registry.deleteRule id)
    unfold deleteRule
    split
    · exact coded_error _ _
    · exact (registry.coded_rule id).bind fun _ => .ok _
  | associateRule ruleId vpcId =>
    refine (registry.coded_rule ruleId).bind fun _ => ?_
    simp only
    split <;> exact .ok _
  | disassociateRule ruleId vpcId =>
    show Coded (registry.disassociateRule ruleId vpcId)
    unfold disassociateRule
    split
    · exact .ok _
    · exact coded_error _ _

end Registry

end Provider

end Converge
