import Converge.Manifest
import Converge.Proofs.Json.Schemas

/-! Records survive their written form. Every field is read as it was written, whether a value is
set, is null or is left out. Nothing is asked of a record but that its numbers are such as the
record can hold: a count has 32 bits and a port 16. -/
namespace Converge

open Json Resolver

def Json.Codec.Survives {α : Type} (codec : Codec α) (value : α) : Prop :=
  codec.decode (Json.read (codec.write value).compact) = .ok value

theorem Json.Codec.Keeps.survives {α : Type} {codec : Codec α} {value : α}
    (keeps : codec.Keeps value) : codec.Survives value := by
  simp only [Survives, Codec.decode, read_compact keeps.plain, keeps.kept]
  rfl

theorem Tag.keeps (tag : Tag) : Tag.schema.codec.Keeps tag :=
  Schema.keeps (by decide) <| .required (.string _) <| .required (.string _) .done

theorem Tags.keeps (tags : Tags) : Tags.codec.Keeps tags := .nameMap fun _ _ => .string _

theorem Token.keeps (token : Token) : Token.codec.Keeps token := .via (.string _) rfl

theorem ConditionKind.keeps (kind : ConditionKind) : ConditionKind.codec.Keeps kind :=
  .variant (by decide) (by cases kind <;> decide)

theorem Condition.keeps (condition : Condition) : Condition.schema.codec.Keeps condition :=
  Schema.keeps (by decide) <| .required (ConditionKind.keeps _) <| .required (.bool _) <|
    .optional (fun _ _ => .string _) rfl <| .required (.time _) .done

theorem Conditions.keeps (conditions : Conditions) : Conditions.codec.Keeps conditions :=
  .via (.list fun condition _ => condition.keeps) rfl

namespace Resolver

theorem Direction.keeps (direction : Direction) : Direction.codec.Keeps direction :=
  .variant (by decide) (by cases direction <;> decide)

theorem EndpointType.keeps (type : EndpointType) : EndpointType.codec.Keeps type :=
  .variant (by decide) (by cases type <;> decide)

theorem EndpointState.keeps (state : EndpointState) : EndpointState.codec.Keeps state :=
  .variant (by decide) (by cases state <;> decide)

theorem RuleType.keeps (type : RuleType) : RuleType.codec.Keeps type :=
  .variant (by decide) (by cases type <;> decide)

theorem RuleState.keeps (state : RuleState) : RuleState.codec.Keeps state :=
  .variant (by decide) (by cases state <;> decide)

theorem AddressRequest.keeps (request : AddressRequest) :
    AddressRequest.schema.codec.Keeps request :=
  Schema.keeps (by decide) <| .required (.string _) <| .optional (fun _ _ => .string _) rfl <|
    .optional (fun _ _ => .string _) rfl .done

theorem Address.keeps (address : Address) : Address.schema.codec.Keeps address :=
  Schema.keeps (by decide) <| .required (.string _) <| .required (.string _) <|
    .nullable (fun _ _ => .string _) <| .nullable (fun _ _ => .string _) <|
    .required (.string _) <| .nullable (fun _ _ => .string _) <|
    .nullable (fun _ _ => .time _) <| .nullable (fun _ _ => .time _) .done

theorem EndpointSpec.keeps (spec : EndpointSpec) : EndpointSpec.schema.codec.Keeps spec :=
  Schema.keeps (by decide) <| .required (.string _) <| .optional (fun _ _ => .time _) rfl <|
    .required (Direction.keeps _) <| .optional (fun type _ => type.keeps) rfl <|
    .defaulted (.list fun _ _ => .string _) <|
    .defaulted (.list fun request _ => request.keeps) <| .defaulted (Tags.keeps _) .done

/-- The count of addresses is a number of 32 bits. -/
def EndpointStatus.Fits (status : EndpointStatus) : Prop := status.ipAddressCount < Nat.pow 2 32
deriving Decidable

theorem EndpointStatus.Fits.keeps {status : EndpointStatus} (fits : status.Fits) :
    EndpointStatus.schema.codec.Keeps status :=
  Schema.keeps (by decide) <| .nullable (fun _ _ => .string _) <|
    .nullable (fun _ _ => .string _) <| .nullable (fun _ _ => .string _) <|
    .nullable (fun _ _ => .string _) <| .required (.natural fits (by decide)) <|
    .nullable (fun state _ => state.keeps) <| .nullable (fun _ _ => .string _) <|
    .nullable (fun _ _ => .time _) <| .nullable (fun _ _ => .time _) <|
    .defaulted (.list fun address _ => address.keeps) .done

theorem EndpointStatus.Fits.keeps_endpoint {endpoint : Endpoint} (fits : endpoint.status.Fits) :
    Endpoint.schema.codec.Keeps endpoint :=
  Schema.keeps (by decide) <| .required (EndpointSpec.keeps _) <| .required fits.keeps .done

def TargetAddress.Fits (target : TargetAddress) : Prop := ∀ port ∈ target.port, port < Nat.pow 2 16
deriving Decidable

theorem TargetAddress.Fits.keeps {target : TargetAddress} (fits : target.Fits) :
    TargetAddress.schema.codec.Keeps target :=
  Schema.keeps (by decide) <| .optional (fun _ _ => .string _) rfl <|
    .optional (fun _ _ => .string _) rfl <|
    .optional (fun port set => .natural (fits port set) (by decide)) rfl .done

example : (TargetAddress.schema.write ⟨none, none, some 53⟩).compact = "\x7b\"port\":53\x7d" := by
  decide +kernel

theorem RuleAssociation.keeps (association : RuleAssociation) :
    RuleAssociation.schema.codec.Keeps association :=
  Schema.keeps (by decide) <| .required (.string _) .done

def RuleSpec.Fits (spec : RuleSpec) : Prop := ∀ target ∈ spec.targetIps, target.Fits
deriving Decidable

theorem RuleSpec.Fits.keeps {spec : RuleSpec} (fits : spec.Fits) :
    RuleSpec.schema.codec.Keeps spec :=
  Schema.keeps (by decide) <| .required (.string _) <| .optional (fun _ _ => .time _) rfl <|
    .required (.string _) <| .required (RuleType.keeps _) <|
    .optional (fun _ _ => .string _) rfl <| .optional (fun _ _ => .string _) rfl <|
    .defaulted (.list fun target listed => (fits target listed).keeps) <|
    .defaulted (.list fun association _ => association.keeps) <| .defaulted (Tags.keeps _) .done

theorem RuleStatus.keeps (status : RuleStatus) : RuleStatus.schema.codec.Keeps status :=
  Schema.keeps (by decide) <| .nullable (fun _ _ => .string _) <|
    .nullable (fun _ _ => .string _) <| .nullable (fun _ _ => .string _) <|
    .nullable (fun _ _ => .string _) <| .nullable (fun _ _ => .string _) <|
    .nullable (fun state _ => state.keeps) <| .nullable (fun _ _ => .string _) <|
    .nullable (fun _ _ => .time _) <| .nullable (fun _ _ => .time _) .done

theorem RuleSpec.Fits.keeps_rule {rule : Rule} (fits : rule.spec.Fits) :
    Rule.schema.codec.Keeps rule :=
  Schema.keeps (by decide) <| .required fits.keeps <| .required (RuleStatus.keeps _) .done

end Resolver

namespace Manifest

variable {manifest : Manifest}

/-- Every port of a manifest fits; an endpoint that is only wanted has no count. -/
def Fits (manifest : Manifest) : Prop := ∀ rule ∈ manifest.rules, rule.Fits

theorem Fits.keeps (fits : manifest.Fits) : schema.codec.Keeps manifest :=
  Schema.keeps (by decide) <| .defaulted (.list fun spec _ => spec.keeps) <|
    .defaulted (.list fun rule listed => (fits rule listed).keeps) .done

theorem Fits.ofText_compact (fits : manifest.Fits) :
    ofText (schema.write manifest).compact = manifest.validate.map fun _ => manifest := by
  have read : schema.codec.decode (Json.read (schema.write manifest).compact) = .ok manifest :=
    fits.keeps.survives
  rw [ofText, read]
  rfl

end Manifest

/-- Every record is read from its text as it was written. A manifest is if it is valid, and
otherwise its text is refused for what is wrong with the manifest. -/
theorem records_survive :
    (∀ spec : EndpointSpec, EndpointSpec.schema.codec.Survives spec) ∧
      (∀ spec : RuleSpec, spec.Fits → RuleSpec.schema.codec.Survives spec) ∧
      (∀ endpoint : Endpoint, endpoint.status.Fits → Endpoint.schema.codec.Survives endpoint) ∧
      (∀ rule : Rule, rule.spec.Fits → Rule.schema.codec.Survives rule) ∧
      (∀ conditions, Conditions.codec.Survives conditions) ∧
      (∀ tag, Tag.schema.codec.Survives tag) ∧
      (∀ token, Token.codec.Survives token) ∧
      ∀ manifest : Manifest, manifest.Fits →
        let text := (Manifest.schema.write manifest).compact
        (Manifest.ofText text = .ok manifest ↔ manifest.validate = .ok ()) ∧
          ∀ error, Manifest.ofText text = .error error ↔ manifest.validate = .error error := by
  refine ⟨fun spec => spec.keeps.survives, fun _ fits => fits.keeps.survives,
    fun _ fits => fits.keeps_endpoint.survives, fun _ fits => fits.keeps_rule.survives,
    fun conditions => conditions.keeps.survives, fun tag => tag.keeps.survives,
    fun token => token.keeps.survives, fun manifest fits => ?_⟩
  dsimp only
  rw [fits.ofText_compact]
  cases manifest.validate with
  | ok => simp [Except.map]
  | error => simp [Except.map]

/-- A rule for an endpoint that is declared elsewhere. -/
def forwarding : RuleSpec where
  name := "inward"
  createdAt := some .epoch
  domainName := "example.com"
  ruleType := .forward
  resolverEndpointId := none
  resolverEndpointRef := some "gate"
  targetIps := [⟨some "192.0.2.1", none, some 53⟩, ⟨none, some "2001:db8::1", none⟩]
  associations := []
  tags := ∅

theorem records_survive_forwarding :
    let manifest : Manifest := ⟨[], [forwarding]⟩
    let endpoint : Endpoint := ⟨default, { (default : EndpointStatus) with ipAddressCount := 2 }⟩
    RuleSpec.schema.codec.Survives forwarding ∧
      Rule.schema.codec.Survives ⟨forwarding, default⟩ ∧
      Endpoint.schema.codec.Survives endpoint ∧
      Manifest.ofText (Manifest.schema.write manifest).compact =
        .error (.unknownEndpoint "inward" "gate") := by
  have fits : forwarding.Fits := by decide
  have counted : ({ (default : EndpointStatus) with ipAddressCount := 2 }).Fits := by decide
  obtain ⟨-, specs, endpoints, rules, -, -, -, manifests⟩ := records_survive
  exact ⟨specs _ fits, rules ⟨forwarding, default⟩ fits, endpoints _ counted,
    ((manifests ⟨[], [forwarding]⟩ (List.forall_mem_singleton.2 fits)).2 _).2 rfl⟩

end Converge
