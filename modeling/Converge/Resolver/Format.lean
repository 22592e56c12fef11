import Converge.Condition
import Converge.Json.Schema
import Converge.Resolver.Endpoint
import Converge.Resolver.Rule
import Converge.Token

/-! The written form of every record. -/
namespace Converge

open Converge.Json

def Tag.schema : Schema Tag where
  title := "Tag"
  blank := default
  fields := [
    .required "key" .string Tag.key fun value tag => { tag with key := value },
    .required "value" .string Tag.value fun value tag => { tag with value }]

def Tags.codec : Codec Tags := .nameMap .string

def Token.codec : Codec Token := Codec.string.via Token.mk Token.text

def ConditionKind.codec : Codec ConditionKind :=
  .variant [("Terminal", .terminal), ("Recoverable", .recoverable), ("Synced", .synced)]

def Condition.schema : Schema Condition where
  title := "Condition"
  blank := ⟨.terminal, false, none, default⟩
  fields := [
    .required "type" ConditionKind.codec Condition.kind fun kind condition =>
      { condition with kind },
    .required "status" .bool Condition.status fun status condition => { condition with status },
    .optional "message" .string Condition.message fun message condition =>
      { condition with message },
    .required "last_transition_time" .time Condition.since fun since condition =>
      { condition with since }]

def Conditions.codec : Codec Conditions :=
  Condition.schema.codec.list.via Conditions.mk Conditions.entries

namespace Resolver

def Direction.codec : Codec Direction :=
  .variant [("INBOUND", .inbound), ("OUTBOUND", .outbound)]

def EndpointType.codec : Codec EndpointType :=
  .variant [("IPV4", .ipv4), ("IPV6", .ipv6), ("DUALSTACK", .dualstack)]

def EndpointState.codec : Codec EndpointState :=
  .variant [("CREATING", .creating), ("OPERATIONAL", .operational), ("UPDATING", .updating),
    ("AUTO_RECOVERING", .autoRecovering), ("ACTION_NEEDED", .actionNeeded),
    ("DELETING", .deleting)]

def RuleType.codec : Codec RuleType :=
  .variant [("FORWARD", .forward), ("SYSTEM", .system), ("RECURSIVE", .recursive)]

def RuleState.codec : Codec RuleState :=
  .variant [("COMPLETE", .complete), ("DELETING", .deleting), ("UPDATING", .updating),
    ("FAILED", .failed)]

def AssociationStatus.codec : Codec AssociationStatus :=
  .variant [("CREATING", .creating), ("COMPLETE", .complete), ("DELETING", .deleting),
    ("FAILED", .failed), ("OVERRIDDEN", .overridden)]

def AddressRequest.schema : Schema AddressRequest where
  title := "IpAddressRequest"
  blank := default
  fields := [
    .required "subnet_id" .string AddressRequest.subnetId fun subnetId record =>
      { record with subnetId },
    .optional "ip" .string AddressRequest.ip fun ip record => { record with ip },
    .optional "ipv6" .string AddressRequest.ipv6 fun ipv6 record => { record with ipv6 }]

def Address.schema : Schema Address where
  title := "IpAddressStatus"
  blank := default
  fields := [
    .required "ip_id" .string Address.ipId fun ipId record => { record with ipId },
    .required "subnet_id" .string Address.subnetId fun subnetId record =>
      { record with subnetId },
    .nullable "ip" .string Address.ip fun ip record => { record with ip },
    .nullable "ipv6" .string Address.ipv6 fun ipv6 record => { record with ipv6 },
    .required "status" .string Address.status fun status record => { record with status },
    .nullable "status_message" .string Address.statusMessage fun statusMessage record =>
      { record with statusMessage },
    .nullable "creation_time" .time Address.creationTime fun creationTime record =>
      { record with creationTime },
    .nullable "modification_time" .time Address.modificationTime fun modificationTime record =>
      { record with modificationTime }]

def EndpointSpec.schema : Schema EndpointSpec where
  title := "EndpointSpec"
  blank := default
  fields := [
    .required "name" .string EndpointSpec.name fun name record => { record with name },
    .optional "created_at" .time EndpointSpec.createdAt fun createdAt record =>
      { record with createdAt },
    .required "direction" Direction.codec EndpointSpec.direction fun direction record =>
      { record with direction },
    .optional "endpoint_type" EndpointType.codec EndpointSpec.endpointType
      fun endpointType record => { record with endpointType },
    .defaulted "security_group_ids" (.list .string) EndpointSpec.securityGroupIds
      fun securityGroupIds record => { record with securityGroupIds },
    .defaulted "ip_addresses" (.list AddressRequest.schema.codec) EndpointSpec.ipAddresses
      fun ipAddresses record => { record with ipAddresses },
    .defaulted "tags" Tags.codec EndpointSpec.tags fun tags record => { record with tags }]

def countCodec : Codec Nat := .natural (Nat.pow 2 32) "u32"

def portCodec : Codec Nat := .natural (Nat.pow 2 16) "u16"

def EndpointStatus.schema : Schema EndpointStatus where
  title := "EndpointStatus"
  blank := default
  fields := [
    .nullable "id" .string EndpointStatus.id fun id record => { record with id },
    .nullable "arn" .string EndpointStatus.arn fun arn record => { record with arn },
    .nullable "creator_request_id" .string EndpointStatus.creatorRequestId
      fun creatorRequestId record => { record with creatorRequestId },
    .nullable "host_vpc_id" .string EndpointStatus.hostVpcId fun hostVpcId record =>
      { record with hostVpcId },
    .required "ip_address_count" countCodec EndpointStatus.ipAddressCount
      fun ipAddressCount record => { record with ipAddressCount },
    .nullable "status" EndpointState.codec EndpointStatus.status fun status record =>
      { record with status },
    .nullable "status_message" .string EndpointStatus.statusMessage fun statusMessage record =>
      { record with statusMessage },
    .nullable "creation_time" .time EndpointStatus.creationTime fun creationTime record =>
      { record with creationTime },
    .nullable "modification_time" .time EndpointStatus.modificationTime
      fun modificationTime record => { record with modificationTime },
    .defaulted "ip_addresses" (.list Address.schema.codec) EndpointStatus.ipAddresses
      fun ipAddresses record => { record with ipAddresses }]

def Endpoint.schema : Schema Endpoint where
  title := "Endpoint"
  blank := default
  fields := [
    .required "spec" EndpointSpec.schema.codec Endpoint.spec fun spec record =>
      { record with spec },
    .required "status" EndpointStatus.schema.codec Endpoint.status fun status record =>
      { record with status }]

def TargetAddress.schema : Schema TargetAddress where
  title := "TargetAddress"
  blank := default
  fields := [
    .optional "ip" .string TargetAddress.ip fun ip record => { record with ip },
    .optional "ipv6" .string TargetAddress.ipv6 fun ipv6 record => { record with ipv6 },
    .optional "port" portCodec TargetAddress.port fun port record => { record with port }]

def RuleAssociation.schema : Schema RuleAssociation where
  title := "RuleAssociation"
  blank := default
  fields := [
    .required "vpc_id" .string RuleAssociation.vpcId fun vpcId record =>
      { record with vpcId }]

def RuleSpec.schema : Schema RuleSpec where
  title := "RuleSpec"
  blank := default
  fields := [
    .required "name" .string RuleSpec.name fun name record => { record with name },
    .optional "created_at" .time RuleSpec.createdAt fun createdAt record =>
      { record with createdAt },
    .required "domain_name" .string RuleSpec.domainName fun domainName record =>
      { record with domainName },
    .required "rule_type" RuleType.codec RuleSpec.ruleType fun ruleType record =>
      { record with ruleType },
    .optional "resolver_endpoint_id" .string RuleSpec.resolverEndpointId
      fun resolverEndpointId record => { record with resolverEndpointId },
    .optional "resolver_endpoint_ref" .string RuleSpec.resolverEndpointRef
      fun resolverEndpointRef record => { record with resolverEndpointRef },
    .defaulted "target_ips" (.list TargetAddress.schema.codec) RuleSpec.targetIps
      fun targetIps record => { record with targetIps },
    .defaulted "associations" (.list RuleAssociation.schema.codec) RuleSpec.associations
      fun associations record => { record with associations },
    .defaulted "tags" Tags.codec RuleSpec.tags fun tags record => { record with tags }]

def RuleStatus.schema : Schema RuleStatus where
  title := "RuleStatus"
  blank := default
  fields := [
    .nullable "id" .string RuleStatus.id fun id record => { record with id },
    .nullable "arn" .string RuleStatus.arn fun arn record => { record with arn },
    .nullable "creator_request_id" .string RuleStatus.creatorRequestId
      fun creatorRequestId record => { record with creatorRequestId },
    .nullable "owner_id" .string RuleStatus.ownerId fun ownerId record => { record with ownerId },
    .nullable "share_status" .string RuleStatus.shareStatus fun shareStatus record =>
      { record with shareStatus },
    .nullable "status" RuleState.codec RuleStatus.status fun status record =>
      { record with status },
    .nullable "status_message" .string RuleStatus.statusMessage fun statusMessage record =>
      { record with statusMessage },
    .nullable "creation_time" .time RuleStatus.creationTime fun creationTime record =>
      { record with creationTime },
    .nullable "modification_time" .time RuleStatus.modificationTime
      fun modificationTime record => { record with modificationTime }]

def Rule.schema : Schema Rule where
  title := "Rule"
  blank := default
  fields := [
    .required "spec" RuleSpec.schema.codec Rule.spec fun spec record => { record with spec },
    .required "status" RuleStatus.schema.codec Rule.status fun status record =>
      { record with status }]

end Resolver

end Converge
