import Converge.Tags
import Converge.Timestamp

/-! Resolver endpoints: what a user can ask for, and what a provider reports. -/
namespace Converge.Resolver

inductive Direction where
  | inbound
  | outbound
deriving DecidableEq, Inhabited

namespace Direction

def label : Direction → String
  | .inbound => "Inbound"
  | .outbound => "Outbound"

end Direction

inductive EndpointType where
  | ipv4
  | ipv6
  | dualstack
deriving DecidableEq, Inhabited

inductive EndpointState where
  | creating
  | operational
  | updating
  | autoRecovering
  | actionNeeded
  | deleting
deriving DecidableEq, Inhabited

namespace EndpointState

def isTransitional : EndpointState → Bool
  | .creating | .updating | .autoRecovering | .deleting => true
  | .operational | .actionNeeded => false

end EndpointState

structure AddressRequest where
  subnetId : String
  ip : Option String
  ipv6 : Option String
deriving DecidableEq, Inhabited

structure Address where
  ipId : String
  subnetId : String
  ip : Option String
  ipv6 : Option String
  status : String
  statusMessage : Option String
  creationTime : Option Timestamp
  modificationTime : Option Timestamp
deriving DecidableEq, Inhabited

namespace Address

def toRequest (address : Address) : AddressRequest :=
  ⟨address.subnetId, address.ip, address.ipv6⟩

end Address

structure EndpointSpec where
  name : String
  createdAt : Option Timestamp
  direction : Direction
  endpointType : Option EndpointType
  securityGroupIds : List String
  ipAddresses : List AddressRequest
  tags : Tags
deriving DecidableEq, Inhabited

structure EndpointStatus where
  id : Option String
  arn : Option String
  creatorRequestId : Option String
  hostVpcId : Option String
  ipAddressCount : Nat
  status : Option EndpointState
  statusMessage : Option String
  creationTime : Option Timestamp
  modificationTime : Option Timestamp
  ipAddresses : List Address
deriving DecidableEq, Inhabited

structure Endpoint where
  spec : EndpointSpec
  status : EndpointStatus
deriving DecidableEq, Inhabited

namespace Endpoint

def id? (endpoint : Endpoint) : Option String := endpoint.status.id

def ipIdFor? (endpoint : Endpoint) (subnetId : String) : Option String :=
  (endpoint.status.ipAddresses.find? fun address => address.subnetId = subnetId).map Address.ipId

end Endpoint

end Converge.Resolver
