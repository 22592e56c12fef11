import Converge.Collection
import Converge.Manager
import Converge.Pass
import Converge.Provider.Registry

/-! How endpoints are handled. The addresses of an endpoint are its collection, one for each subnet;
direction and security groups are fixed at creation. -/
namespace Converge.Resolver

open Converge.Provider

def terminalCodes : List String := [invalidParameterCode, invalidRequestCode, resourceExistsCode]

def known {α : Type} (what : String) : Option α → Except Failure α
  | some value => .ok value
  | none => .error (.validation s!"{what} is not known yet")

namespace Endpoint

def addressesPath : String := "spec.ip_addresses"

def namePath : String := "spec.name"

def endpointTypePath : String := "spec.endpoint_type"

def securityGroupsPath : String := "spec.security_group_ids"

def statusOf (record : EndpointRecord) (addresses : List Address) : EndpointStatus where
  id := some record.id
  arn := some record.arn
  creatorRequestId := some record.creatorRequestId
  hostVpcId := some record.hostVpcId
  ipAddressCount := record.ipAddressCount
  status := some record.status
  statusMessage := record.statusMessage
  creationTime := some record.creationTime
  modificationTime := some record.modificationTime
  ipAddresses := addresses

/-- Addresses by subnet. They are attached as they are asked for, and detached by the name that the
snapshot has for them. -/
def addresses (id : String) (observed : Endpoint) :
    Collection Call Call.Reply AddressRequest String Nat where
  key := AddressRequest.subnetId
  attach request := do
    let record ← ask (.associateAddress id request)
    pure (some record.ipAddressCount)
  detach subnetId := do
    match observed.ipIdFor? subnetId with
    | none => throw (.validation s!"no address id recorded for subnet {subnetId}")
    | some ipId =>
      let record ← ask (.disassociateAddress id ipId)
      pure (some record.ipAddressCount)

def observeId (desired : EndpointSpec) (id : String) : Request (Option Endpoint) :=
  ExceptT.mk do
    match ← (ask (.getEndpoint id)).outcome with
    | .error failure => pure (if failure.isNotFound then .ok none else .error failure)
    | .ok record => ExceptT.run do
      let addresses ← Walk.start.collect fun token => ask (.listAddresses id token)
      let tags ← tagAccess.fetch record.arn
      let spec : EndpointSpec :=
        { name := record.name
          createdAt := desired.createdAt
          direction := record.direction
          endpointType := some record.endpointType
          securityGroupIds := record.securityGroupIds
          ipAddresses := addresses.map Address.toRequest
          tags }
      pure (some ⟨spec, statusOf record addresses⟩)

def observe (desired : EndpointSpec) (last : Option Endpoint) : Request (Option Endpoint) :=
  match last.bind Endpoint.id? with
  | none => pure none
  | some id => observeId desired id

/-- The addresses of a new endpoint are not known until it is observed. -/
def create (desired : EndpointSpec) (token : Token) : Request Endpoint := do
  let record ← ask <| .createEndpoint
    { creatorRequestId := token.text
      name := desired.name
      direction := desired.direction
      endpointType := desired.endpointType
      securityGroupIds := desired.securityGroupIds
      ipAddresses := desired.ipAddresses
      tags := desired.tags.toTags }
  pure ⟨{ desired with endpointType := some record.endpointType }, statusOf record []⟩

def checkImmutable (desired : EndpointSpec) (observed : Endpoint) : Except Failure Unit :=
  let groups := Delta.empty.compareUnordered securityGroupsPath desired.securityGroupIds
    observed.spec.securityGroupIds
  if desired.direction ≠ observed.spec.direction then
    .error (.terminal
      s!"direction cannot change from {observed.spec.direction.label} to {desired.direction.label}")
  else if !groups.isEmpty then
    .error (.terminal "security_group_ids cannot change after creation")
  else .ok ()

def delta (desired : EndpointSpec) (observed : Endpoint) : Delta :=
  Delta.empty
    |>.compare tagsPath desired.tags observed.spec.tags
    |>.compareKeys addressesPath AddressRequest.subnetId desired.ipAddresses
      observed.spec.ipAddresses
    |>.compare namePath desired.name observed.spec.name
    |>.compareIfSet endpointTypePath desired.endpointType observed.spec.endpointType

def syncTags (desired : EndpointSpec) (observed : Endpoint) : Request Endpoint := do
  let arn ← Attempt.ofExcept (known "endpoint ARN" observed.status.arn)
  let _ ← tagAccess.sync arn desired.tags observed.spec.tags
  pure { observed with spec := { observed.spec with tags := desired.tags } }

/-- The snapshot after a sync of its addresses. What was attached is not in the status until it is
observed. -/
def withProgress (observed : Endpoint) (progress : Progress AddressRequest String Nat) :
    Endpoint where
  spec :=
    { observed.spec with
      ipAddresses := progress.mergeInto AddressRequest.subnetId observed.spec.ipAddresses }
  status :=
    { observed.status with
      ipAddresses := observed.status.ipAddresses.filter fun address =>
        address.subnetId ∉ progress.detached
      ipAddressCount := progress.aggregate.getD observed.status.ipAddressCount }

def syncAddresses (desired : EndpointSpec) (observed : Endpoint) :
    Program Call Call.Reply (Applied Endpoint) :=
  match known "endpoint id" observed.id? with
  | .error failure => pure ⟨observed, false, some failure⟩
  | .ok id => do
    let progress ← (addresses id observed).sync desired.ipAddresses observed.spec.ipAddresses
    pure ⟨observed.withProgress progress, progress.changed, progress.failure⟩

def update (desired : EndpointSpec) (observed : Endpoint) (delta : Delta) :
    Request Endpoint := do
  let id ← Attempt.ofExcept (known "endpoint id" observed.id?)
  let record ← ask <| .updateEndpoint id
    { name := if delta.differentAt namePath then some desired.name else none
      endpointType := if delta.differentAt endpointTypePath then desired.endpointType else none }
  pure
    { spec :=
        { observed.spec with name := record.name, endpointType := some record.endpointType }
      status := statusOf record observed.status.ipAddresses }

def delete (observed : Endpoint) : Request Unit :=
  match observed.id? with
  | none => pure ()
  | some id => ask (.deleteEndpoint id)

def settled (observed : Endpoint) : Bool :=
  observed.status.status.all fun state => !state.isTransitional

end Endpoint

def endpointManager : Manager Call Call.Reply EndpointSpec Endpoint where
  kind := "ResolverEndpoint"
  name := EndpointSpec.name
  createdAt := EndpointSpec.createdAt
  terminalCodes := terminalCodes
  collectionPaths := [Endpoint.addressesPath]
  observe := Endpoint.observe
  create := Endpoint.create
  checkImmutable := Endpoint.checkImmutable
  delta := Endpoint.delta
  syncTags := Endpoint.syncTags
  syncCollections desired observed _ := Endpoint.syncAddresses desired observed
  update := Endpoint.update
  delete := Endpoint.delete
  needsRefresh changes := changes.collections
  settled := Endpoint.settled

end Converge.Resolver
