import Converge.Proofs.Provider.Reachable

/-! Operations statement by statement. An operation reads and writes the registry as it goes along:
it takes numbers, looks things up and puts things down, and it can fail in between. A failure takes
nothing back that was written by then. Still every operation does all that it has to do or nothing,
because whatever can fail comes before whatever is written, or cannot fail any more. -/
namespace Converge.Provider

open Converge.Resolver

/-- Statements that work on a registry. A failure ends them and takes nothing back. -/
abbrev Statements : Type → Type := ExceptT Failure (StateM Registry)

namespace Statements

def on {α : Type} (statements : Statements α) (registry : Registry) :
    Except Failure α × Registry :=
  statements.run.run registry

section Steps

variable {α β : Type} (registry : Registry)

@[simp]
theorem on_pure (value : α) : (pure value : Statements α).on registry = (.ok value, registry) := rfl

@[simp]
theorem on_throw (failure : Failure) :
    (throw failure : Statements α).on registry = (.error failure, registry) := rfl

@[simp]
theorem on_get : (get : Statements Registry).on registry = (.ok registry, registry) := rfl

@[simp]
theorem on_modify (change : Registry → Registry) :
    (modify change : Statements PUnit).on registry = (.ok (), change registry) := rfl

@[simp]
theorem on_bind (first : Statements α) (next : α → Statements β) :
    (first >>= next).on registry =
      match first.on registry with
      | (.ok value, after) => (next value).on after
      | (.error failure, after) => (.error failure, after) := by
  have unfolded : (first >>= next).on registry =
      (ExceptT.bindCont next (first.on registry).1).run (first.on registry).2 := rfl
  rw [unfolded]
  obtain ⟨_ | value, after⟩ := first.on registry <;> rfl

end Steps

def require {α : Type} (found : Registry → Except Failure α) : Statements α := do
  match found (← get) with
  | .ok value => pure value
  | .error failure => throw failure

def endpoint (id : String) : Statements StoredEndpoint := require fun registry => registry.endpoint id

def rule (id : String) : Statements RuleRecord := require fun registry => registry.rule id

def tagsAt (arn : String) : Statements Tags := require fun registry => registry.tagsAt arn

def nextId (stem : String) : Statements String := do
  modify fun registry => { registry with serial := registry.serial + 1 }
  return idText stem (← get).serial

def allocate (now : Timestamp) (request : AddressRequest) : Statements Address := do
  let ipId ← nextId "rni"
  let serial := (← get).serial
  let address : Address :=
    { ipId
      subnetId := request.subnetId
      ip := some (request.ip.getD (addressText serial))
      ipv6 := request.ipv6
      status := "ATTACHED"
      statusMessage := none
      creationTime := some now
      modificationTime := some now }
  return address

def changeEndpoint (id : String) (change : StoredEndpoint → StoredEndpoint) :
    Statements StoredEndpoint := do
  let stored ← endpoint id
  modify fun registry =>
    { registry with endpoints := registry.endpoints.insert id (change stored) }
  return change stored

def putTags (arn : String) (tags : Tags) : Statements Unit :=
  modify fun registry => { registry with tags := registry.tags.insert arn tags }

section Operations

variable (site : Site) (now : Timestamp)

/-- Takes the numbers first, and puts the endpoint down last. -/
def makeEndpoint (request : EndpointRequest) : Statements EndpointRecord := do
  let id ← nextId (match request.direction with
    | .inbound => "rslvr-in"
    | .outbound => "rslvr-out")
  let addresses ← request.ipAddresses.mapM (allocate now)
  let subnets := request.ipAddresses.map AddressRequest.subnetId
  let record : EndpointRecord :=
    { id
      arn := site.arn "resolver-endpoint" id
      name := request.name
      creatorRequestId := request.creatorRequestId
      direction := request.direction
      endpointType := request.endpointType.getD .ipv4
      securityGroupIds := request.securityGroupIds
      hostVpcId := "vpc-" ++ String.ofList (bareSubnet (subnets.headD "").toList)
      ipAddressCount := addressCount addresses
      status := .operational
      statusMessage := none
      creationTime := now
      modificationTime := now }
  putTags record.arn (Tags.ofTags request.tags)
  modify fun registry => { registry with
    endpointTokens := registry.endpointTokens.insert request.creatorRequestId ⟨id, request.name⟩ }
  modify fun registry => { registry with
    endpoints := registry.endpoints.insert id ⟨record, addresses⟩ }
  return record

def createEndpoint (request : EndpointRequest) : Statements EndpointRecord := do
  match (← get).endpointTokens.get? request.creatorRequestId with
  | some entry =>
    if entry.name ≠ request.name then throw (reusedToken request.creatorRequestId)
    else return (← endpoint entry.id).record
  | none =>
    if request.ipAddresses.length < leastAddresses then
      throw (invalidRequest s!"an endpoint needs at least {leastAddresses} ip addresses")
    else if request.securityGroupIds.isEmpty then
      throw (invalidParameter "security_group_ids must not be empty")
    else makeEndpoint site now request

def updateEndpoint (id : String) (update : EndpointUpdate) : Statements EndpointRecord := do
  let stored ← changeEndpoint id fun stored => { stored with record :=
    { stored.record with
      name := update.name.getD stored.record.name
      endpointType := update.endpointType.getD stored.record.endpointType
      modificationTime := now } }
  return stored.record

def deleteEndpoint (id : String) : Statements Unit := do
  let stored ← endpoint id
  modify fun registry => { registry with endpoints := registry.endpoints.erase id }
  modify fun registry => { registry with tags := registry.tags.erase stored.record.arn }
  modify fun registry => { registry with
    endpointTokens := registry.endpointTokens.filter fun _ entry => entry.id ≠ id }

/-- The endpoint is looked up again after its new address has taken a number, and once more to
answer. -/
def associateAddress (id : String) (request : AddressRequest) : Statements EndpointRecord := do
  let stored ← endpoint id
  if stored.addresses.any fun address => address.subnetId = request.subnetId then
    return (← endpoint id).record
  else
    let address ← allocate now request
    let _ ← changeEndpoint id fun stored =>
      Registry.withAddresses now stored (stored.addresses ++ [address])
    return (← endpoint id).record

def disassociateAddress (id ipId : String) : Statements EndpointRecord := do
  let stored ← endpoint id
  if stored.addresses.all fun address => address.ipId ≠ ipId then
    return stored.record
  else if stored.addresses.length ≤ leastAddresses then
    throw (invalidRequest s!"an endpoint must keep at least {leastAddresses} ip addresses")
  else
    let stored ← changeEndpoint id fun stored => Registry.withAddresses now stored
      (stored.addresses.eraseP fun address => address.ipId = ipId)
    return stored.record

def makeRule (request : RuleRequest) : Statements RuleRecord := do
  let id ← nextId "rslvr-rr"
  let record : RuleRecord :=
    { id
      arn := site.arn "resolver-rule" id
      name := request.name
      creatorRequestId := request.creatorRequestId
      domainName := request.domainName
      ruleType := request.ruleType
      resolverEndpointId := request.resolverEndpointId
      targetIps := request.targetIps
      ownerId := site.accountId
      shareStatus := "NOT_SHARED"
      status := .complete
      statusMessage := none
      creationTime := now
      modificationTime := now }
  putTags record.arn (Tags.ofTags request.tags)
  modify fun registry => { registry with
    ruleTokens := registry.ruleTokens.insert request.creatorRequestId ⟨id, request.name⟩ }
  modify fun registry => { registry with rules := registry.rules.insert id record }
  return record

def createRule (request : RuleRequest) : Statements RuleRecord := do
  match (← get).ruleTokens.get? request.creatorRequestId with
  | some entry =>
    if entry.name ≠ request.name then throw (reusedToken request.creatorRequestId)
    else rule entry.id
  | none =>
    require fun registry => registry.checkRule request
    makeRule site now request

def changeRule (id : String) (update : RuleUpdate) : Statements RuleRecord := do
  let record ← rule id
  if record.ruleType = .forward && update.targetIps = some [] then
    throw (invalidRequest "a FORWARD rule needs target ips")
  else
    let record := Registry.updatedRule now update record
    modify fun registry => { registry with rules := registry.rules.insert id record }
    return record

def updateRule (id : String) (update : RuleUpdate) : Statements RuleRecord := do
  match update.resolverEndpointId with
  | some endpointId =>
    let _ ← endpoint endpointId
    changeRule now id update
  | none => changeRule now id update

def deleteRule (id : String) : Statements Unit := do
  let registry ← get
  if registry.associations.any fun association =>
      association.ruleId = id && Registry.isActive association then
    throw (.provider resourceInUseCode s!"resolver rule {id} is still associated")
  else
    let record ← rule id
    modify fun registry => { registry with rules := registry.rules.erase id }
    modify fun registry => { registry with tags := registry.tags.erase record.arn }
    modify fun registry => { registry with
      associations := registry.associations.filter fun association => association.ruleId ≠ id }
    modify fun registry => { registry with
      ruleTokens := registry.ruleTokens.filter fun _ entry => entry.id ≠ id }

def associateRule (ruleId vpcId : String) : Statements AssociationRecord := do
  let _ ← rule ruleId
  let existing := (← get).associations.find? fun association =>
    association.ruleId = ruleId && association.vpcId = vpcId && Registry.isActive association
  match existing with
  | some association => return association
  | none =>
    let id ← nextId "rslvr-rrassoc"
    let association : AssociationRecord := ⟨id, ruleId, vpcId, .complete, none⟩
    modify fun registry => { registry with
      associations := registry.associations ++ [association] }
    return association

def disassociateRule (ruleId vpcId : String) : Statements AssociationRecord := do
  match Registry.retireLast ruleId vpcId (← get).associations with
  | none => throw (missing "resolver rule association" s!"{ruleId}/{vpcId}")
  | some (retired, associations) =>
    modify fun registry => { registry with associations }
    return retired

def tag (arn : String) (added : List Tag) : Statements Unit := do
  let tags ← tagsAt arn
  putTags arn (tags.add added)

def untag (arn : String) (keys : List String) : Statements Unit := do
  let tags ← tagsAt arn
  putTags arn (tags.remove keys)

def ofCall : (call : Call) → Statements call.Value
  | .createEndpoint request => createEndpoint site now request
  | .getEndpoint id => do return (← endpoint id).record
  | .listAddresses id token => do
    let stored ← endpoint id
    require fun _ => paginate site.pageSize stored.addresses token
  | .updateEndpoint id update => updateEndpoint now id update
  | .deleteEndpoint id => deleteEndpoint id
  | .associateAddress id request => associateAddress now id request
  | .disassociateAddress id ipId => disassociateAddress now id ipId
  | .createRule request => createRule site now request
  | .getRule id => rule id
  | .updateRule id update => updateRule now id update
  | .deleteRule id => deleteRule id
  | .associateRule ruleId vpcId => associateRule ruleId vpcId
  | .disassociateRule ruleId vpcId => disassociateRule ruleId vpcId
  | .listAssociations ruleId token =>
    require fun registry => paginate site.pageSize (registry.associationsOf ruleId) token
  | .listTags arn => do return (← tagsAt arn).toTags
  | .tag arn tags => tag arn tags
  | .untag arn keys => untag arn keys

end Operations

/-- All of an outcome, or nothing of it. -/
def settle {α : Type} (registry : Registry) :
    Except Failure (α × Registry) → Except Failure α × Registry
  | .ok (value, after) => (.ok value, after)
  | .error failure => (.error failure, registry)

section Outcomes

variable {site : Site} {now : Timestamp} {registry : Registry}

@[simp]
theorem on_require {α : Type} (found : Registry → Except Failure α) :
    (require found).on registry = (found registry, registry) := by
  simp only [require, on_bind, on_get]
  split <;> simp [*]

theorem on_endpoint (id : String) : (endpoint id).on registry = (registry.endpoint id, registry) :=
  on_require _

theorem on_rule (id : String) : (rule id).on registry = (registry.rule id, registry) :=
  on_require _

theorem on_tagsAt (arn : String) : (tagsAt arn).on registry = (registry.tagsAt arn, registry) :=
  on_require _

theorem on_allocate (request : AddressRequest) :
    (allocate now request).on registry =
      (.ok (registry.allocate now request).1, (registry.allocate now request).2) := rfl

theorem on_allocateAll (requests : List AddressRequest) :
    (requests.mapM (allocate now)).on registry =
      (.ok (Registry.allocateAll now requests registry).1,
        (Registry.allocateAll now requests registry).2) := by
  induction requests generalizing registry with
  | nil => rfl
  | cons request rest ih =>
    simp only [List.mapM_cons, on_bind, on_allocate, ih, on_pure]
    rfl

theorem on_makeEndpoint (request : EndpointRequest) :
    (makeEndpoint site now request).on registry =
      (.ok (registry.newEndpoint site now request).1.record,
        (registry.newEndpoint site now request).2.addEndpoint
          (registry.newEndpoint site now request).1 (Tags.ofTags request.tags)) := by
  simp only [makeEndpoint, nextId, putTags, on_bind, on_modify, on_get, on_pure, on_allocateAll]
  rfl

theorem on_createEndpoint (request : EndpointRequest) :
    (createEndpoint site now request).on registry =
      settle registry (registry.createEndpoint site now request) := by
  simp only [createEndpoint, on_bind, on_get, Registry.createEndpoint]
  cases registry.endpointTokens.get? request.creatorRequestId with
  | some entry =>
    simp only
    split
    · rfl
    · simp only [on_bind, on_endpoint]
      cases registry.endpoint entry.id <;> rfl
  | none =>
    simp only
    split
    · rfl
    · split
      · rfl
      · exact on_makeEndpoint request

theorem on_changeEndpoint {id : String} {stored : StoredEndpoint}
    (found : registry.endpoint id = .ok stored) (change : StoredEndpoint → StoredEndpoint) :
    (changeEndpoint id change).on registry = (.ok (change stored), { registry with
      endpoints := registry.endpoints.insert id (change stored) }) := by
  simp only [changeEndpoint, on_bind, on_endpoint, found]
  rfl

theorem on_updateEndpoint (id : String) (update : EndpointUpdate) :
    (updateEndpoint now id update).on registry =
      settle registry (registry.updateEndpoint now id update) := by
  simp only [updateEndpoint, changeEndpoint, on_bind, on_endpoint, Registry.updateEndpoint]
  cases registry.endpoint id <;> rfl

theorem on_deleteEndpoint (id : String) :
    (deleteEndpoint id).on registry = settle registry (registry.deleteEndpoint id) := by
  simp only [deleteEndpoint, on_bind, on_endpoint, Registry.deleteEndpoint]
  cases registry.endpoint id <;> rfl

theorem on_associateAddress (id : String) (request : AddressRequest) :
    (associateAddress now id request).on registry =
      settle registry (registry.associateAddress now id request) := by
  simp only [associateAddress, on_bind, on_endpoint, Registry.associateAddress]
  cases held : registry.endpoint id with
  | error failure => rfl
  | ok stored =>
    show Statements.on (ite _ _ _) registry = settle registry (ite _ _ _)
    split
    · simp only [on_bind, on_endpoint, held, on_pure]
      rfl
    · -- The number is not taken in vain: an endpoint that was found is found again.
      have again : (registry.allocate now request).2.endpoint id = .ok stored := held
      have changed : ∀ (registry : Registry) new, Registry.endpoint
          { registry with endpoints := registry.endpoints.insert id new } id = .ok new := by
        simp
      simp only [on_bind, on_allocate, on_changeEndpoint again, on_endpoint, changed]
      rfl

theorem on_disassociateAddress (id ipId : String) :
    (disassociateAddress now id ipId).on registry =
      settle registry (registry.disassociateAddress now id ipId) := by
  simp only [disassociateAddress, on_bind, on_endpoint, Registry.disassociateAddress]
  cases held : registry.endpoint id with
  | error failure => rfl
  | ok stored =>
    show Statements.on (ite _ _ _) registry = settle registry (ite _ _ _)
    split
    · rfl
    · split
      · rfl
      · simp only [on_bind, on_changeEndpoint held]
        rfl

theorem on_makeRule (request : RuleRequest) :
    (makeRule site now request).on registry =
      (.ok (registry.newRule site now request).1,
        (registry.newRule site now request).2.addRule
          (registry.newRule site now request).1 (Tags.ofTags request.tags)) := rfl

theorem on_createRule (request : RuleRequest) :
    (createRule site now request).on registry =
      settle registry (registry.createRule site now request) := by
  simp only [createRule, on_bind, on_get, Registry.createRule]
  cases registry.ruleTokens.get? request.creatorRequestId with
  | some entry =>
    simp only
    split
    · rfl
    · rw [on_rule]
      cases registry.rule entry.id <;> rfl
  | none =>
    simp only [on_bind, on_require]
    cases registry.checkRule request with
    | error failure => rfl
    | ok checked => exact on_makeRule request

theorem on_changeRule (id : String) (update : RuleUpdate) :
    (changeRule now id update).on registry = settle registry (do
      let record ← registry.rule id
      if record.ruleType = .forward && update.targetIps = some [] then
        .error (invalidRequest "a FORWARD rule needs target ips")
      else
        pure (Registry.updatedRule now update record, { registry with
          rules := registry.rules.insert id (Registry.updatedRule now update record) })) := by
  simp only [changeRule, on_bind, on_rule]
  cases registry.rule id with
  | error failure => rfl
  | ok record =>
    show Statements.on (ite _ _ _) registry = settle registry (ite _ _ _)
    split <;> rfl

theorem on_updateRule (id : String) (update : RuleUpdate) :
    (updateRule now id update).on registry =
      settle registry (registry.updateRule now id update) := by
  obtain ⟨name, endpointId, targetIps⟩ := update
  cases endpointId with
  | none => exact on_changeRule id _
  | some endpointId =>
    simp only [updateRule, on_bind, on_endpoint, Registry.updateRule]
    cases registry.endpoint endpointId with
    | error failure => rfl
    | ok stored => exact on_changeRule id _

theorem on_deleteRule (id : String) :
    (deleteRule id).on registry = settle registry (registry.deleteRule id) := by
  simp only [deleteRule, on_bind, on_get, Registry.deleteRule]
  split
  · rfl
  · simp only [on_bind, on_rule]
    cases registry.rule id <;> rfl

theorem on_associateRule (ruleId vpcId : String) :
    (associateRule ruleId vpcId).on registry =
      settle registry (registry.associateRule ruleId vpcId) := by
  simp only [associateRule, on_bind, on_rule, Registry.associateRule]
  cases registry.rule ruleId with
  | error failure => rfl
  | ok record =>
    simp only [on_get]
    cases registry.associations.find? fun association =>
      association.ruleId = ruleId && association.vpcId = vpcId && Registry.isActive association
    all_goals rfl

theorem on_disassociateRule (ruleId vpcId : String) :
    (disassociateRule ruleId vpcId).on registry =
      settle registry (registry.disassociateRule ruleId vpcId) := by
  simp only [disassociateRule, on_bind, on_get, Registry.disassociateRule]
  cases Registry.retireLast ruleId vpcId registry.associations <;> rfl

theorem on_tag (arn : String) (added : List Tag) :
    (tag arn added).on registry = settle registry (registry.tag arn added) := by
  simp only [tag, on_bind, on_tagsAt, Registry.tag]
  cases registry.tagsAt arn <;> rfl

theorem on_untag (arn : String) (keys : List String) :
    (untag arn keys).on registry = settle registry (registry.untag arn keys) := by
  simp only [untag, on_bind, on_tagsAt, Registry.untag]
  cases registry.tagsAt arn <;> rfl

theorem on_eq_settle_look {α : Type} {statements : Statements α} {found : Except Failure α}
    (looks : statements.on registry = (found, registry)) :
    statements.on registry = settle registry (registry.look found) := by
  rw [looks]
  cases found <;> rfl

theorem on_ofCall (call : Call) :
    (ofCall site now call).on registry = settle registry (registry.perform site now call) := by
  cases call with
  | createEndpoint request => exact on_createEndpoint request
  | getEndpoint id =>
    refine on_eq_settle_look ?_
    simp only [ofCall, on_bind, on_endpoint]
    cases registry.endpoint id <;> rfl
  | listAddresses id token =>
    refine on_eq_settle_look ?_
    simp only [ofCall, on_bind, on_endpoint]
    cases registry.endpoint id with
    | error failure => rfl
    | ok stored => exact on_require _
  | updateEndpoint id update => exact on_updateEndpoint id update
  | deleteEndpoint id => exact on_deleteEndpoint id
  | associateAddress id request => exact on_associateAddress id request
  | disassociateAddress id ipId => exact on_disassociateAddress id ipId
  | createRule request => exact on_createRule request
  | getRule id => exact on_eq_settle_look (on_rule id)
  | updateRule id update => exact on_updateRule id update
  | deleteRule id => exact on_deleteRule id
  | associateRule ruleId vpcId => exact on_associateRule ruleId vpcId
  | disassociateRule ruleId vpcId => exact on_disassociateRule ruleId vpcId
  | listAssociations ruleId token => exact on_eq_settle_look (on_require _)
  | listTags arn =>
    refine on_eq_settle_look ?_
    simp only [ofCall, on_bind, on_tagsAt]
    cases registry.tagsAt arn <;> rfl
  | tag arn tags => exact on_tag arn tags
  | untag arn keys => exact on_untag arn keys

end Outcomes

end Statements

namespace World

variable {world : World} {bounds : Bounds} {call : Call}

def execute (world : World) (call : Call) : call.Reply × World :=
  let (reply, registry) := (Statements.ofCall world.site world.now call).on world.registry
  (reply, { world with registry })

def serveStepwise (bounds : Bounds) (call : Call) (world : World) : call.Reply × World :=
  match world.begin bounds call with
  | (some failure, world) => (.error failure, world)
  | (none, world) =>
    let (time, ending) := world.ending bounds
    let world := { world with time }
    match ending.failure? with
    | some failure => (.error failure, world)
    | none => world.execute call

theorem execute_eq_complete (world : World) (call : Call) :
    world.execute call = world.complete call := by
  unfold execute complete
  rw [Statements.on_ofCall]
  cases world.registry.perform world.site world.now call <;> rfl

theorem serveStepwise_eq_serve (world : World) (bounds : Bounds) (call : Call) :
    world.serveStepwise bounds call = world.serve bounds call := by
  unfold serveStepwise serve
  rcases world.begin bounds call with ⟨_ | refused, rest⟩
  · simp only
    cases (rest.ending bounds).2.failure? with
    | some failure => rfl
    | none => exact execute_eq_complete _ call
  · rfl

/-- Nothing has come of a call but that it may have been recorded, which counts it and uses up the
fault that hit it, and that time has passed. -/
structure Noted (call : Call) (before after : World) : Prop where
  registry : after.registry = before.registry
  site : after.site = before.site
  latency : after.latency = before.latency
  clock : after.clock = before.clock
  journal : after.journal = before.journal ∨ after.journal = (before.journal.enter call).2

theorem begin_noted : Noted call world (world.begin bounds call).2 := by
  unfold begin
  split
  · exact ⟨rfl, rfl, rfl, rfl, .inl rfl⟩
  · exact ⟨rfl, rfl, rfl, rfl, .inr rfl⟩

theorem complete_eq_of_error {failure : Failure} (failed : (world.complete call).1 = .error failure) :
    (world.complete call).2 = world := by
  unfold complete at failed ⊢
  split at failed
  · cases failed
  · rfl

theorem serve_noted {failure : Failure} (failed : (world.serve bounds call).1 = .error failure) :
    Noted call world (world.serve bounds call).2 := by
  have begun : Noted call world (world.begin bounds call).2 := begin_noted
  unfold serve at failed ⊢
  split
  · next refused _ accepted =>
    rw [accepted] at begun
    exact begun
  · next rest accepted =>
    rw [accepted] at begun failed
    have waited : ∀ time, Noted call world { rest with time } := fun time => { begun with }
    simp only at failed ⊢
    split
    · exact waited _
    · next completes =>
      simp only [completes] at failed
      rw [complete_eq_of_error failed]
      exact waited _

/-- Whatever call fails, for whatever reason, leaves the registry as it was, even if it is carried
out statement by statement and a failure takes nothing back. -/
theorem failed_call_atomic (world : World) (bounds : Bounds) (call : Call) :
    world.serveStepwise bounds call = world.serve bounds call ∧
      (∀ failure, (world.serveStepwise bounds call).1 = .error failure →
        Noted call world (world.serveStepwise bounds call).2) ∧
      ∀ failure, (world.execute call).1 = .error failure → (world.execute call).2 = world := by
  rw [serveStepwise_eq_serve, execute_eq_complete]
  exact ⟨rfl, fun _ => serve_noted, fun _ => complete_eq_of_error⟩

theorem refused_detachment_atomic :
    let world := still.completeAll
      [.createEndpoint
        { creatorRequestId := "out-0"
          name := "out"
          direction := .outbound
          endpointType := none
          securityGroupIds := ["sg-1"]
          ipAddresses := [⟨"subnet-a", none, none⟩, ⟨"subnet-b", none, none⟩]
          tags := [] }]
    let call := Call.disassociateAddress "rslvr-out-00000000000000001" "rni-00000000000000003"
    ∃ failure, (world.serveStepwise .unbounded call).1 = .error failure ∧
      Noted call world (world.serveStepwise .unbounded call).2 ∧
      (world.serveStepwise .unbounded call).2.journal = (world.journal.enter call).2 := by
  intro world call
  have rejected : (world.serveStepwise .unbounded call).1.toBool = false := by decide +kernel
  cases failed : (world.serveStepwise .unbounded call).1 with
  | ok record =>
    rw [failed] at rejected
    cases rejected
  | error failure =>
    have noted := (failed_call_atomic world .unbounded call).2.1 failure failed
    exact ⟨failure, rfl, noted, by decide +kernel⟩

end World

end Converge.Provider
