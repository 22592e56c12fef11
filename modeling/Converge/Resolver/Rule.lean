import Converge.Tags
import Converge.Timestamp

/-! Resolver rules: which queries are sent where, and for which networks. -/
namespace Converge.Resolver

inductive RuleType where
  | forward
  | system
  | recursive
deriving DecidableEq, Inhabited

namespace RuleType

def label : RuleType → String
  | .forward => "Forward"
  | .system => "System"
  | .recursive => "Recursive"

end RuleType

inductive RuleState where
  | complete
  | deleting
  | updating
  | failed
deriving DecidableEq, Inhabited

inductive AssociationStatus where
  | creating
  | complete
  | deleting
  | failed
  | overridden
deriving DecidableEq, Inhabited

structure TargetAddress where
  ip : Option String
  ipv6 : Option String
  port : Option Nat
deriving DecidableEq, Inhabited

structure RuleAssociation where
  vpcId : String
deriving DecidableEq, Inhabited

structure RuleSpec where
  name : String
  createdAt : Option Timestamp
  domainName : String
  ruleType : RuleType
  resolverEndpointId : Option String
  /-- The name of an endpoint of the same manifest. -/
  resolverEndpointRef : Option String
  targetIps : List TargetAddress
  associations : List RuleAssociation
  tags : Tags
deriving DecidableEq, Inhabited

structure RuleStatus where
  id : Option String
  arn : Option String
  creatorRequestId : Option String
  ownerId : Option String
  shareStatus : Option String
  status : Option RuleState
  statusMessage : Option String
  creationTime : Option Timestamp
  modificationTime : Option Timestamp
deriving DecidableEq, Inhabited

structure Rule where
  spec : RuleSpec
  status : RuleStatus
deriving DecidableEq, Inhabited

namespace Rule

def id? (rule : Rule) : Option String := rule.status.id

end Rule

end Converge.Resolver
