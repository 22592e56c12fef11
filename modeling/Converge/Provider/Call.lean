import Converge.Pages
import Converge.Resolver.Endpoint
import Converge.Resolver.Rule
import Converge.TagSync

/-! The calls that a resolver provider answers, and the records in its answers. -/
namespace Converge.Provider

open Converge.Resolver

structure EndpointRecord where
  id : String
  arn : String
  name : String
  creatorRequestId : String
  direction : Direction
  endpointType : EndpointType
  securityGroupIds : List String
  hostVpcId : String
  ipAddressCount : Nat
  status : EndpointState
  statusMessage : Option String
  creationTime : Timestamp
  modificationTime : Timestamp
deriving DecidableEq, Inhabited

structure EndpointRequest where
  creatorRequestId : String
  name : String
  direction : Direction
  endpointType : Option EndpointType
  securityGroupIds : List String
  ipAddresses : List AddressRequest
  tags : List Tag
deriving DecidableEq, Inhabited

/-- What is unset stays as it is. -/
structure EndpointUpdate where
  name : Option String
  endpointType : Option EndpointType
deriving DecidableEq, Inhabited

structure RuleRecord where
  id : String
  arn : String
  name : String
  creatorRequestId : String
  domainName : String
  ruleType : RuleType
  resolverEndpointId : Option String
  targetIps : List TargetAddress
  ownerId : String
  shareStatus : String
  status : RuleState
  statusMessage : Option String
  creationTime : Timestamp
  modificationTime : Timestamp
deriving DecidableEq, Inhabited

structure RuleRequest where
  creatorRequestId : String
  name : String
  domainName : String
  ruleType : RuleType
  resolverEndpointId : Option String
  targetIps : List TargetAddress
  tags : List Tag
deriving DecidableEq, Inhabited

structure RuleUpdate where
  name : Option String
  resolverEndpointId : Option String
  targetIps : Option (List TargetAddress)
deriving DecidableEq, Inhabited

structure AssociationRecord where
  id : String
  ruleId : String
  vpcId : String
  status : AssociationStatus
  statusMessage : Option String
deriving DecidableEq, Inhabited

inductive Operation where
  | createEndpoint
  | getEndpoint
  | listAddresses
  | updateEndpoint
  | deleteEndpoint
  | associateAddress
  | disassociateAddress
  | createRule
  | getRule
  | updateRule
  | deleteRule
  | associateRule
  | disassociateRule
  | listAssociations
  | listTags
  | tag
  | untag
deriving DecidableEq, Inhabited

namespace Operation

def label : Operation → String
  | .createEndpoint => "CreateResolverEndpoint"
  | .getEndpoint => "GetResolverEndpoint"
  | .listAddresses => "ListResolverEndpointIpAddresses"
  | .updateEndpoint => "UpdateResolverEndpoint"
  | .deleteEndpoint => "DeleteResolverEndpoint"
  | .associateAddress => "AssociateResolverEndpointIpAddress"
  | .disassociateAddress => "DisassociateResolverEndpointIpAddress"
  | .createRule => "CreateResolverRule"
  | .getRule => "GetResolverRule"
  | .updateRule => "UpdateResolverRule"
  | .deleteRule => "DeleteResolverRule"
  | .associateRule => "AssociateResolverRule"
  | .disassociateRule => "DisassociateResolverRule"
  | .listAssociations => "ListResolverRuleAssociations"
  | .listTags => "ListTagsForResource"
  | .tag => "TagResource"
  | .untag => "UntagResource"

def all : List Operation :=
  [.createEndpoint, .getEndpoint, .listAddresses, .updateEndpoint, .deleteEndpoint,
    .associateAddress, .disassociateAddress, .createRule, .getRule, .updateRule, .deleteRule,
    .associateRule, .disassociateRule, .listAssociations, .listTags, .tag, .untag]

def ofLabel? (label : String) : Option Operation :=
  all.find? fun operation => operation.label = label

end Operation

inductive Call where
  | createEndpoint (request : EndpointRequest)
  | getEndpoint (id : String)
  | listAddresses (id : String) (token : Option String)
  | updateEndpoint (id : String) (update : EndpointUpdate)
  | deleteEndpoint (id : String)
  | associateAddress (id : String) (address : AddressRequest)
  | disassociateAddress (id ipId : String)
  | createRule (request : RuleRequest)
  | getRule (id : String)
  | updateRule (id : String) (update : RuleUpdate)
  | deleteRule (id : String)
  | associateRule (id vpcId : String)
  | disassociateRule (id vpcId : String)
  | listAssociations (id : String) (token : Option String)
  | listTags (arn : String)
  | tag (arn : String) (tags : List Tag)
  | untag (arn : String) (keys : List String)
deriving DecidableEq, Inhabited

namespace Call

@[reducible]
def Value : Call → Type
  | createEndpoint _ | getEndpoint _ | updateEndpoint _ _ | associateAddress _ _
  | disassociateAddress _ _ => EndpointRecord
  | createRule _ | getRule _ | updateRule _ _ => RuleRecord
  | associateRule _ _ | disassociateRule _ _ => AssociationRecord
  | listAddresses _ _ => Page Address
  | listAssociations _ _ => Page AssociationRecord
  | listTags _ => List Tag
  | deleteEndpoint _ | deleteRule _ | tag _ _ | untag _ _ => Unit

abbrev Reply (call : Call) : Type := Except Failure call.Value

def operation : Call → Operation
  | createEndpoint _ => .createEndpoint
  | getEndpoint _ => .getEndpoint
  | listAddresses _ _ => .listAddresses
  | updateEndpoint _ _ => .updateEndpoint
  | deleteEndpoint _ => .deleteEndpoint
  | associateAddress _ _ => .associateAddress
  | disassociateAddress _ _ => .disassociateAddress
  | createRule _ => .createRule
  | getRule _ => .getRule
  | updateRule _ _ => .updateRule
  | deleteRule _ => .deleteRule
  | associateRule _ _ => .associateRule
  | disassociateRule _ _ => .disassociateRule
  | listAssociations _ _ => .listAssociations
  | listTags _ => .listTags
  | tag _ _ => .tag
  | untag _ _ => .untag

def subject : Call → String
  | createEndpoint request => request.name
  | createRule request => request.name
  | getEndpoint id | listAddresses id _ | updateEndpoint id _ | deleteEndpoint id
  | associateAddress id _ | disassociateAddress id _ | getRule id | updateRule id _
  | deleteRule id | associateRule id _ | disassociateRule id _ | listAssociations id _ => id
  | listTags arn | tag arn _ | untag arn _ => arn

end Call

abbrev Request : Type → Type := Attempt Call Call.Reply

def ask (call : Call) : Request call.Value := ExceptT.mk (Program.request call)

def tagAccess : TagAccess Call Call.Reply where
  list arn := ask (.listTags arn)
  tag arn tags := ask (.tag arn tags)
  untag arn keys := ask (.untag arn keys)

end Converge.Provider
