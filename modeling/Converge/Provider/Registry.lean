import Converge.Provider.Call
import Converge.Text.Blank

/-! What a provider holds, and what each call does to it. A call either succeeds, with a value and
the registry after it, or fails and changes nothing. -/
namespace Converge.Provider

open Converge.Resolver

def invalidParameterCode : String := "InvalidParameterException"

def invalidRequestCode : String := "InvalidRequestException"

def invalidNextTokenCode : String := "InvalidNextTokenException"

def resourceExistsCode : String := "ResourceExistsException"

def resourceInUseCode : String := "ResourceInUseException"

def leastAddresses : Nat := 2

structure Site where
  region : String
  accountId : String
  pageSize : Nat
deriving DecidableEq, Inhabited

namespace Site

def arn (site : Site) (kind id : String) : String :=
  s!"arn:aws:route53resolver:{site.region}:{site.accountId}:{kind}/{id}"

end Site

structure TokenEntry where
  id : String
  name : String
deriving DecidableEq, Inhabited

structure StoredEndpoint where
  record : EndpointRecord
  addresses : List Address
deriving DecidableEq, Inhabited

structure Registry where
  endpoints : NameMap StoredEndpoint
  rules : NameMap RuleRecord
  /-- Associations stay listed while they are being deleted. -/
  associations : List AssociationRecord
  tags : NameMap Tags
  endpointTokens : NameMap TokenEntry
  ruleTokens : NameMap TokenEntry
  serial : Nat
deriving DecidableEq

def missing (kind id : String) : Failure :=
  .provider Failure.notFoundCode s!"{kind} {id} does not exist"

def missingEndpoint (id : String) : Failure := missing "resolver endpoint" id

def missingRule (id : String) : Failure := missing "resolver rule" id

def missingResource (arn : String) : Failure := missing "resource" arn

def invalidRequest (message : String) : Failure := .provider invalidRequestCode message

def invalidParameter (message : String) : Failure := .provider invalidParameterCode message

def reusedToken (token : String) : Failure :=
  .provider resourceExistsCode s!"creator request id {token} was already used"

/-- A name, a dash and the number in seventeen hexadecimal digits, or more if it needs them. -/
def idText (stem : String) (number : Nat) : String :=
  let digits := Nat.toDigits 16 number
  stem ++ "-" ++ String.ofList (List.replicate (17 - digits.length) '0' ++ digits)

def addressText (number : Nat) : String :=
  s!"10.0.{number / 250 % 256}.{number % 250 + 4}"

def bareSubnet : List Char → List Char
  | 's' :: 'u' :: 'b' :: 'n' :: 'e' :: 't' :: '-' :: rest => bareSubnet rest
  | text => text

def readOffset? (token : String) : Option Nat :=
  let digits := match token.toList with
    | '+' :: rest => rest
    | text => text
  if digits.isEmpty || !digits.all Char.isDigit then none else some (Text.digitsValue digits)

def paginate {α : Type} (pageSize : Nat) (items : List α) (token : Option String) :
    Except Failure (Page α) :=
  let page (start : Nat) : Page α :=
    let stop := min (start + pageSize) items.length
    ⟨(items.take stop).drop start, if stop < items.length then some (toString stop) else none⟩
  match token with
  | none => .ok (page 0)
  | some text =>
    match (readOffset? text).filter fun offset => offset ≤ items.length with
    | some start => .ok (page start)
    | none => .error (.provider invalidNextTokenCode s!"invalid next token {text}")

/-- How many addresses there are, in 32 bits. -/
def addressCount (addresses : List Address) : Nat := addresses.length % Nat.pow 2 32

theorem addressCount_of_lt {addresses : List Address} (few : addresses.length < Nat.pow 2 32) :
    addressCount addresses = addresses.length :=
  Nat.mod_eq_of_lt few

namespace Registry

def empty : Registry := ⟨∅, ∅, [], ∅, ∅, ∅, 0⟩

instance : EmptyCollection Registry := ⟨empty⟩

instance : Inhabited Registry := ⟨empty⟩

def issue (registry : Registry) (stem : String) : String × Registry :=
  let serial := registry.serial + 1
  (idText stem serial, { registry with serial })

/-- A new address. The number of its id also gives its text, unless one was asked for. -/
def allocate (registry : Registry) (now : Timestamp) (request : AddressRequest) :
    Address × Registry :=
  let (ipId, registry) := registry.issue "rni"
  let address : Address :=
    { ipId
      subnetId := request.subnetId
      ip := some (request.ip.getD (addressText registry.serial))
      ipv6 := request.ipv6
      status := "ATTACHED"
      statusMessage := none
      creationTime := some now
      modificationTime := some now }
  (address, registry)

def allocateAll (now : Timestamp) : List AddressRequest → Registry → List Address × Registry
  | [], registry => ([], registry)
  | request :: rest, registry =>
    let (address, registry) := registry.allocate now request
    let (others, registry) := allocateAll now rest registry
    (address :: others, registry)

def endpoint (registry : Registry) (id : String) : Except Failure StoredEndpoint :=
  match registry.endpoints.get? id with
  | some stored => .ok stored
  | none => .error (missingEndpoint id)

def rule (registry : Registry) (id : String) : Except Failure RuleRecord :=
  match registry.rules.get? id with
  | some record => .ok record
  | none => .error (missingRule id)

def tagsAt (registry : Registry) (arn : String) : Except Failure Tags :=
  match registry.tags.get? arn with
  | some tags => .ok tags
  | none => .error (missingResource arn)

def putEndpoint (registry : Registry) (stored : StoredEndpoint) : Registry :=
  { registry with endpoints := registry.endpoints.insert stored.record.id stored }

def putRule (registry : Registry) (record : RuleRecord) : Registry :=
  { registry with rules := registry.rules.insert record.id record }

def newEndpoint (registry : Registry) (site : Site) (now : Timestamp)
    (request : EndpointRequest) : StoredEndpoint × Registry :=
  let stem := match request.direction with
    | .inbound => "rslvr-in"
    | .outbound => "rslvr-out"
  let (id, registry) := registry.issue stem
  let (addresses, registry) := allocateAll now request.ipAddresses registry
  let subnets := request.ipAddresses.map AddressRequest.subnetId
  let record : EndpointRecord :=
    { id
      arn := site.arn "resolver-endpoint" id
      name := request.name
      creatorRequestId := request.creatorRequestId
      direction := request.direction
      endpointType := request.endpointType.getD .ipv4
      securityGroupIds := request.securityGroupIds
      hostVpcId := "vpc-" ++ String.ofList (bareSubnet (subnets.headD "").toList)
      ipAddressCount := addressCount addresses
      status := .operational
      statusMessage := none
      creationTime := now
      modificationTime := now }
  (⟨record, addresses⟩, registry)

def addEndpoint (registry : Registry) (stored : StoredEndpoint) (tags : Tags) : Registry :=
  let record := stored.record
  { registry.putEndpoint stored with
    tags := registry.tags.insert record.arn tags
    endpointTokens :=
      registry.endpointTokens.insert record.creatorRequestId ⟨record.id, record.name⟩ }

def createEndpoint (registry : Registry) (site : Site) (now : Timestamp)
    (request : EndpointRequest) : Except Failure (EndpointRecord × Registry) :=
  match registry.endpointTokens.get? request.creatorRequestId with
  | some entry =>
    if entry.name ≠ request.name then .error (reusedToken request.creatorRequestId)
    else do
      let stored ← registry.endpoint entry.id
      pure (stored.record, registry)
  | none =>
    if request.ipAddresses.length < leastAddresses then
      .error (invalidRequest s!"an endpoint needs at least {leastAddresses} ip addresses")
    else if request.securityGroupIds.isEmpty then
      .error (invalidParameter "security_group_ids must not be empty")
    else
      let (stored, registry) := registry.newEndpoint site now request
      .ok (stored.record, registry.addEndpoint stored (Tags.ofTags request.tags))

def updateEndpoint (registry : Registry) (now : Timestamp) (id : String)
    (update : EndpointUpdate) : Except Failure (EndpointRecord × Registry) := do
  let stored ← registry.endpoint id
  let record :=
    { stored.record with
      name := update.name.getD stored.record.name
      endpointType := update.endpointType.getD stored.record.endpointType
      modificationTime := now }
  pure (record, { registry with
    endpoints := registry.endpoints.insert id { stored with record } })

def deleteEndpoint (registry : Registry) (id : String) : Except Failure (Unit × Registry) := do
  let stored ← registry.endpoint id
  pure ((), { registry with
    endpoints := registry.endpoints.erase id
    tags := registry.tags.erase stored.record.arn
    endpointTokens := registry.endpointTokens.filter fun _ entry => entry.id ≠ id })

def withAddresses (now : Timestamp) (stored : StoredEndpoint) (addresses : List Address) :
    StoredEndpoint :=
  { record :=
      { stored.record with ipAddressCount := addressCount addresses, modificationTime := now }
    addresses }

def associateAddress (registry : Registry) (now : Timestamp) (id : String)
    (request : AddressRequest) : Except Failure (EndpointRecord × Registry) := do
  let stored ← registry.endpoint id
  if stored.addresses.any fun address => address.subnetId = request.subnetId then
    pure (stored.record, registry)
  else
    let (address, registry) := registry.allocate now request
    let stored := withAddresses now stored (stored.addresses ++ [address])
    pure (stored.record, { registry with endpoints := registry.endpoints.insert id stored })

def disassociateAddress (registry : Registry) (now : Timestamp) (id ipId : String) :
    Except Failure (EndpointRecord × Registry) := do
  let stored ← registry.endpoint id
  if stored.addresses.all fun address => address.ipId ≠ ipId then
    pure (stored.record, registry)
  else if stored.addresses.length ≤ leastAddresses then
    .error (invalidRequest s!"an endpoint must keep at least {leastAddresses} ip addresses")
  else
    let stored := withAddresses now stored
      (stored.addresses.eraseP fun address => address.ipId = ipId)
    pure (stored.record, { registry with endpoints := registry.endpoints.insert id stored })

/-- Only a forwarding rule has targets, and it needs a live endpoint to send them through. -/
def checkRule (registry : Registry) (request : RuleRequest) : Except Failure Unit :=
  if request.domainName = "" then .error (invalidParameter "domain_name must not be empty")
  else if request.ruleType = .forward then
    if request.targetIps.isEmpty then .error (invalidRequest "a FORWARD rule needs target ips")
    else match request.resolverEndpointId with
      | none => .error (invalidRequest "a FORWARD rule needs a resolver endpoint")
      | some endpointId => do
        let _ ← registry.endpoint endpointId
        pure ()
  else if request.targetIps.isEmpty then .ok ()
  else .error (invalidRequest "only FORWARD rules take target ips")

def newRule (registry : Registry) (site : Site) (now : Timestamp) (request : RuleRequest) :
    RuleRecord × Registry :=
  let (id, registry) := registry.issue "rslvr-rr"
  let record : RuleRecord :=
    { id
      arn := site.arn "resolver-rule" id
      name := request.name
      creatorRequestId := request.creatorRequestId
      domainName := request.domainName
      ruleType := request.ruleType
      resolverEndpointId := request.resolverEndpointId
      targetIps := request.targetIps
      ownerId := site.accountId
      shareStatus := "NOT_SHARED"
      status := .complete
      statusMessage := none
      creationTime := now
      modificationTime := now }
  (record, registry)

def addRule (registry : Registry) (record : RuleRecord) (tags : Tags) : Registry :=
  { registry.putRule record with
    tags := registry.tags.insert record.arn tags
    ruleTokens := registry.ruleTokens.insert record.creatorRequestId ⟨record.id, record.name⟩ }

def createRule (registry : Registry) (site : Site) (now : Timestamp) (request : RuleRequest) :
    Except Failure (RuleRecord × Registry) :=
  match registry.ruleTokens.get? request.creatorRequestId with
  | some entry =>
    if entry.name ≠ request.name then .error (reusedToken request.creatorRequestId)
    else do
      let record ← registry.rule entry.id
      pure (record, registry)
  | none => do
    registry.checkRule request
    let (record, registry) := registry.newRule site now request
    pure (record, registry.addRule record (Tags.ofTags request.tags))

/-- The new endpoint must be alive, and a forwarding rule keeps at least one target. -/
def updateRule (registry : Registry) (now : Timestamp) (id : String) (update : RuleUpdate) :
    Except Failure (RuleRecord × Registry) := do
  match update.resolverEndpointId with
  | some endpointId =>
    let _ ← registry.endpoint endpointId
    pure ()
  | none => pure ()
  let record ← registry.rule id
  if record.ruleType = .forward && update.targetIps = some [] then
    .error (invalidRequest "a FORWARD rule needs target ips")
  else
    let record :=
      { record with
        name := update.name.getD record.name
        resolverEndpointId := update.resolverEndpointId <|> record.resolverEndpointId
        targetIps := update.targetIps.getD record.targetIps
        modificationTime := now }
    pure (record, { registry with rules := registry.rules.insert id record })

def isActive (association : AssociationRecord) : Bool := association.status ≠ .deleting

def deleteRule (registry : Registry) (id : String) : Except Failure (Unit × Registry) :=
  if registry.associations.any fun association =>
      association.ruleId = id && isActive association then
    .error (.provider resourceInUseCode s!"resolver rule {id} is still associated")
  else do
    let record ← registry.rule id
    pure ((), { registry with
      rules := registry.rules.erase id
      tags := registry.tags.erase record.arn
      associations := registry.associations.filter fun association => association.ruleId ≠ id
      ruleTokens := registry.ruleTokens.filter fun _ entry => entry.id ≠ id })

/-- An active association answers for itself; one that is being deleted does not count. -/
def associateRule (registry : Registry) (ruleId vpcId : String) :
    Except Failure (AssociationRecord × Registry) := do
  let _ ← registry.rule ruleId
  let existing := registry.associations.find? fun association =>
    association.ruleId = ruleId && association.vpcId = vpcId && isActive association
  match existing with
  | some association => pure (association, registry)
  | none =>
    let (id, registry) := registry.issue "rslvr-rrassoc"
    let association : AssociationRecord := ⟨id, ruleId, vpcId, .complete, none⟩
    pure (association, { registry with associations := registry.associations ++ [association] })

def retireLast (ruleId vpcId : String) :
    List AssociationRecord → Option (AssociationRecord × List AssociationRecord)
  | [] => none
  | association :: rest =>
    match retireLast ruleId vpcId rest with
    | some (retired, rest) => some (retired, association :: rest)
    | none =>
      if association.ruleId = ruleId ∧ association.vpcId = vpcId then
        let retired := { association with status := .deleting }
        some (retired, retired :: rest)
      else none

def disassociateRule (registry : Registry) (ruleId vpcId : String) :
    Except Failure (AssociationRecord × Registry) :=
  match retireLast ruleId vpcId registry.associations with
  | some (retired, associations) => .ok (retired, { registry with associations })
  | none => .error (missing "resolver rule association" s!"{ruleId}/{vpcId}")

def associationsOf (registry : Registry) (ruleId : String) : List AssociationRecord :=
  registry.associations.filter fun association => association.ruleId = ruleId

def associatedVpcs (registry : Registry) (ruleId : String) : List String :=
  ((registry.associationsOf ruleId).filter isActive).map AssociationRecord.vpcId

def tag (registry : Registry) (arn : String) (added : List Tag) :
    Except Failure (Unit × Registry) := do
  let tags ← registry.tagsAt arn
  pure ((), { registry with tags := registry.tags.insert arn (tags.add added) })

def untag (registry : Registry) (arn : String) (keys : List String) :
    Except Failure (Unit × Registry) := do
  let tags ← registry.tagsAt arn
  pure ((), { registry with tags := registry.tags.insert arn (tags.remove keys) })

def setStatus (registry : Registry) (id : String) (status : EndpointState) :
    Except Failure Registry := do
  let stored ← registry.endpoint id
  let record := { stored.record with status }
  pure { registry with endpoints := registry.endpoints.insert id { stored with record } }

def look {α : Type} (registry : Registry) (found : Except Failure α) :
    Except Failure (α × Registry) :=
  found.map fun value => (value, registry)

def perform (site : Site) (now : Timestamp) (registry : Registry) :
    (call : Call) → Except Failure (call.Value × Registry)
  | .createEndpoint request => registry.createEndpoint site now request
  | .getEndpoint id => registry.look ((registry.endpoint id).map StoredEndpoint.record)
  | .listAddresses id token => registry.look do
    paginate site.pageSize (← registry.endpoint id).addresses token
  | .updateEndpoint id update => registry.updateEndpoint now id update
  | .deleteEndpoint id => registry.deleteEndpoint id
  | .associateAddress id request => registry.associateAddress now id request
  | .disassociateAddress id ipId => registry.disassociateAddress now id ipId
  | .createRule request => registry.createRule site now request
  | .getRule id => registry.look (registry.rule id)
  | .updateRule id update => registry.updateRule now id update
  | .deleteRule id => registry.deleteRule id
  | .associateRule ruleId vpcId => registry.associateRule ruleId vpcId
  | .disassociateRule ruleId vpcId => registry.disassociateRule ruleId vpcId
  | .listAssociations ruleId token =>
    registry.look (paginate site.pageSize (registry.associationsOf ruleId) token)
  | .listTags arn => registry.look ((registry.tagsAt arn).map Tags.toTags)
  | .tag arn tags => registry.tag arn tags
  | .untag arn keys => registry.untag arn keys

end Registry

end Converge.Provider
