import Converge.Json.Lookup
import Converge.Provider.Call
import Converge.Resolver.Format

/-! The written form of calls and of what they return. A call is read from its name and from an
object that holds its arguments. -/
namespace Converge.Provider

open Converge.Json Converge.Resolver

def EndpointRequest.read (document : Document) : Decoded EndpointRequest := do
  return {
    creatorRequestId := ← document.field .string "creator_request_id"
    name := ← document.field .string "name"
    direction := ← document.field Direction.codec "direction"
    endpointType := ← document.field? EndpointType.codec "endpoint_type"
    securityGroupIds := ← document.fieldList .string "security_group_ids"
    ipAddresses := ← document.fieldList AddressRequest.schema.codec "ip_addresses"
    tags := ← document.fieldList Tag.schema.codec "tags" }

def RuleRequest.read (document : Document) : Decoded RuleRequest := do
  return {
    creatorRequestId := ← document.field .string "creator_request_id"
    name := ← document.field .string "name"
    domainName := ← document.field .string "domain_name"
    ruleType := ← document.field RuleType.codec "rule_type"
    resolverEndpointId := ← document.field? .string "resolver_endpoint_id"
    targetIps := ← document.fieldList TargetAddress.schema.codec "target_ips"
    tags := ← document.fieldList Tag.schema.codec "tags" }

def Call.read? (name : String) (arguments : Document) : Decoded (Option Call) := do
  let id := arguments.field .string "id"
  let arn := arguments.field .string "arn"
  let token := arguments.field? .string "token"
  let request := (arguments.value? "input").getD (.record [])
  match name with
  | "create_endpoint" => return some (.createEndpoint (← EndpointRequest.read request))
  | "get_endpoint" => return some (.getEndpoint (← id))
  | "list_endpoint_ips" => return some (.listAddresses (← id) (← token))
  | "update_endpoint" =>
    return some (.updateEndpoint (← id)
      ⟨← arguments.field? .string "name",
        ← arguments.field? EndpointType.codec "endpoint_type"⟩)
  | "delete_endpoint" => return some (.deleteEndpoint (← id))
  | "associate_ip" =>
    return some (.associateAddress (← id)
      (← arguments.field AddressRequest.schema.codec "address"))
  | "disassociate_ip" =>
    return some (.disassociateAddress (← id) (← arguments.field .string "ip_id"))
  | "create_rule" => return some (.createRule (← RuleRequest.read request))
  | "get_rule" => return some (.getRule (← id))
  | "update_rule" =>
    return some (.updateRule (← id)
      ⟨← arguments.field? .string "name", ← arguments.field? .string "resolver_endpoint_id",
        ← arguments.field? TargetAddress.schema.codec.list "target_ips"⟩)
  | "delete_rule" => return some (.deleteRule (← id))
  | "associate_rule" =>
    return some (.associateRule (← id) (← arguments.field .string "vpc_id"))
  | "disassociate_rule" =>
    return some (.disassociateRule (← id) (← arguments.field .string "vpc_id"))
  | "list_rule_associations" => return some (.listAssociations (← id) (← token))
  | "list_tags" => return some (.listTags (← arn))
  | "tag" => return some (.tag (← arn) (← arguments.fieldList Tag.schema.codec "tags"))
  | "untag" => return some (.untag (← arn) (← arguments.fieldList .string "keys"))
  | _ => return none

def EndpointRecord.write (record : EndpointRecord) : Document :=
  .record [("id", .string record.id), ("arn", .string record.arn), ("name", .string record.name),
    ("creator_request_id", .string record.creatorRequestId),
    ("direction", Direction.codec.write record.direction),
    ("endpoint_type", EndpointType.codec.write record.endpointType),
    ("security_group_ids", Codec.string.list.write record.securityGroupIds),
    ("host_vpc_id", .string record.hostVpcId),
    ("ip_address_count", countCodec.write record.ipAddressCount),
    ("status", EndpointState.codec.write record.status),
    ("status_message", Codec.string.option.write record.statusMessage),
    ("creation_time", Codec.time.write record.creationTime),
    ("modification_time", Codec.time.write record.modificationTime)]

def RuleRecord.write (record : RuleRecord) : Document :=
  .record [("id", .string record.id), ("arn", .string record.arn), ("name", .string record.name),
    ("creator_request_id", .string record.creatorRequestId),
    ("domain_name", .string record.domainName),
    ("rule_type", RuleType.codec.write record.ruleType),
    ("resolver_endpoint_id", Codec.string.option.write record.resolverEndpointId),
    ("target_ips", TargetAddress.schema.codec.list.write record.targetIps),
    ("owner_id", .string record.ownerId), ("share_status", .string record.shareStatus),
    ("status", RuleState.codec.write record.status),
    ("status_message", Codec.string.option.write record.statusMessage),
    ("creation_time", Codec.time.write record.creationTime),
    ("modification_time", Codec.time.write record.modificationTime)]

def AssociationRecord.write (record : AssociationRecord) : Document :=
  .record [("id", .string record.id), ("rule_id", .string record.ruleId),
    ("vpc_id", .string record.vpcId), ("status", AssociationStatus.codec.write record.status),
    ("status_message", Codec.string.option.write record.statusMessage)]

def writePage {α : Type} (write : α → Document) (page : Page α) : Document :=
  .record [("items", .list (page.items.map write)),
    ("next_token", Codec.string.option.write page.nextToken)]

def Call.writeValue : (call : Call) → call.Value → Document
  | .createEndpoint _, value => EndpointRecord.write value
  | .getEndpoint _, value => EndpointRecord.write value
  | .updateEndpoint _ _, value => EndpointRecord.write value
  | .associateAddress _ _, value => EndpointRecord.write value
  | .disassociateAddress _ _, value => EndpointRecord.write value
  | .createRule _, value => RuleRecord.write value
  | .getRule _, value => RuleRecord.write value
  | .updateRule _ _, value => RuleRecord.write value
  | .associateRule _ _, value => AssociationRecord.write value
  | .disassociateRule _ _, value => AssociationRecord.write value
  | .listAddresses _ _, value => writePage Address.schema.write value
  | .listAssociations _ _, value => writePage AssociationRecord.write value
  | .listTags _, value => Tag.schema.codec.list.write value
  | .deleteEndpoint _, () => .null
  | .deleteRule _, () => .null
  | .tag _ _, () => .null
  | .untag _ _, () => .null

end Converge.Provider
