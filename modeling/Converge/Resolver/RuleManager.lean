import Converge.Resolver.EndpointManager

/-! How rules are handled. The associations of a rule with networks are its collection; domain and
type are fixed at creation. A rule cannot be created with associations, nor deleted with them. -/
namespace Converge.Resolver

open Converge.Provider

/-- A domain name as it is compared: without trailing dots, and without regard to the case of ASCII
letters. -/
def bareDomain (domain : String) : List Char :=
  ((domain.toList.reverse.dropWhile fun c => c = '.').reverse).map Char.toLower

def sameDomain (a b : String) : Bool := bareDomain a = bareDomain b

namespace Rule

def associationsPath : String := "spec.associations"

def namePath : String := "spec.name"

def targetIpsPath : String := "spec.target_ips"

def endpointPath : String := "spec.resolver_endpoint_id"

def statusOf (record : RuleRecord) : RuleStatus where
  id := some record.id
  arn := some record.arn
  creatorRequestId := some record.creatorRequestId
  ownerId := some record.ownerId
  shareStatus := some record.shareStatus
  status := some record.status
  statusMessage := record.statusMessage
  creationTime := some record.creationTime
  modificationTime := some record.modificationTime

/-- An association that is already gone counts as detached. -/
def detach (id vpcId : String) : Request Unit :=
  ExceptT.mk do
    match ← (ask (.disassociateRule id vpcId)).outcome with
    | .ok _ => pure (.ok ())
    | .error failure => pure (if failure.isNotFound then .ok () else .error failure)

def associations (id : String) : Collection Call Call.Reply RuleAssociation String Unit where
  key := RuleAssociation.vpcId
  attach association := do
    let _ ← ask (.associateRule id association.vpcId)
    pure none
  detach vpcId := do
    detach id vpcId
    pure none

def observeId (desired : RuleSpec) (id : String) : Request (Option Rule) :=
  ExceptT.mk do
    match ← (ask (.getRule id)).outcome with
    | .error failure => pure (if failure.isNotFound then .ok none else .error failure)
    | .ok record => ExceptT.run do
      let listed ← Walk.start.collect fun token => ask (.listAssociations id token)
      let tags ← tagAccess.fetch record.arn
      let active := listed.filter Registry.isActive
      let spec : RuleSpec :=
        { name := record.name
          createdAt := desired.createdAt
          domainName := record.domainName
          ruleType := record.ruleType
          resolverEndpointId := record.resolverEndpointId
          resolverEndpointRef := desired.resolverEndpointRef
          targetIps := record.targetIps
          associations := active.map fun association => ⟨association.vpcId⟩
          tags }
      pure (some ⟨spec, statusOf record⟩)

def observe (desired : RuleSpec) (last : Option Rule) : Request (Option Rule) :=
  match last.bind Rule.id? with
  | none => pure none
  | some id => observeId desired id

def create (desired : RuleSpec) (token : Token) : Request Rule := do
  let record ← ask <| .createRule
    { creatorRequestId := token.text
      name := desired.name
      domainName := desired.domainName
      ruleType := desired.ruleType
      resolverEndpointId := desired.resolverEndpointId
      targetIps := desired.targetIps
      tags := desired.tags.toTags }
  pure ⟨{ desired with associations := [] }, statusOf record⟩

def syncAssociations (desired : RuleSpec) (observed : Rule) :
    Program Call Call.Reply (Applied Rule) :=
  match known "rule id" observed.id? with
  | .error failure => pure ⟨observed, false, some failure⟩
  | .ok id => do
    let progress ← (associations id).sync desired.associations observed.spec.associations
    let merged := progress.mergeInto RuleAssociation.vpcId observed.spec.associations
    pure ⟨{ observed with spec := { observed.spec with associations := merged } },
      progress.changed, progress.failure⟩

def afterCreate (desired : RuleSpec) (created : Rule) :
    Program Call Call.Reply (Applied Rule) :=
  if desired.associations.isEmpty then pure (Applied.unchanged created)
  else syncAssociations desired created

def checkImmutable (desired : RuleSpec) (observed : Rule) : Except Failure Unit :=
  let found := observed.spec
  if !sameDomain desired.domainName found.domainName then
    .error (.terminal
      s!"domain_name cannot change from {found.domainName} to {desired.domainName}")
  else if desired.ruleType ≠ found.ruleType then
    .error (.terminal
      s!"rule_type cannot change from {found.ruleType.label} to {desired.ruleType.label}")
  else .ok ()

def delta (desired : RuleSpec) (observed : Rule) : Delta :=
  Delta.empty
    |>.compare tagsPath desired.tags observed.spec.tags
    |>.compareKeys associationsPath RuleAssociation.vpcId desired.associations
      observed.spec.associations
    |>.compare namePath desired.name observed.spec.name
    |>.compare targetIpsPath desired.targetIps observed.spec.targetIps
    |>.compareIfSet endpointPath desired.resolverEndpointId observed.spec.resolverEndpointId

def syncTags (desired : RuleSpec) (observed : Rule) : Request Rule := do
  let arn ← Attempt.ofExcept (known "rule ARN" observed.status.arn)
  let _ ← tagAccess.sync arn desired.tags observed.spec.tags
  pure { observed with spec := { observed.spec with tags := desired.tags } }

/-- Sends the whole configuration, whatever differs. -/
def update (desired : RuleSpec) (observed : Rule) : Request Rule := do
  let id ← Attempt.ofExcept (known "rule id" observed.id?)
  let record ← ask <| .updateRule id
    { name := some desired.name
      resolverEndpointId := desired.resolverEndpointId
      targetIps := some desired.targetIps }
  pure
    { spec :=
        { observed.spec with
          name := record.name
          resolverEndpointId := record.resolverEndpointId
          targetIps := record.targetIps }
      status := statusOf record }

def detachAll (id : String) : List RuleAssociation → Request Unit
  | [] => pure ()
  | association :: rest => do
    detach id association.vpcId
    detachAll id rest

/-- Detaches everything first. -/
def delete (observed : Rule) : Request Unit :=
  match observed.id? with
  | none => pure ()
  | some id => do
    detachAll id observed.spec.associations
    ask (.deleteRule id)

def settled (observed : Rule) : Bool :=
  observed.status.status ≠ some .deleting && observed.status.status ≠ some .updating

end Rule

def ruleManager : Manager Call Call.Reply RuleSpec Rule where
  kind := "ResolverRule"
  name := RuleSpec.name
  createdAt := RuleSpec.createdAt
  terminalCodes := terminalCodes
  collectionPaths := [Rule.associationsPath]
  observe := Rule.observe
  create := Rule.create
  afterCreate := Rule.afterCreate
  checkImmutable := Rule.checkImmutable
  delta := Rule.delta
  syncTags := Rule.syncTags
  syncCollections desired observed _ := Rule.syncAssociations desired observed
  update desired observed _ := Rule.update desired observed
  delete := Rule.delete
  needsRefresh changes := changes.primary
  settled := Rule.settled

end Converge.Resolver
