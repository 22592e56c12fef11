import Converge.Json.Place
import Converge.Resolver.Format

/-! Manifests: the resources that should exist. Names are unique within a kind of resource, and a
rule that refers to an endpoint by its name finds it in the same manifest. -/
namespace Converge

open Converge.Json Converge.Resolver

structure Manifest where
  endpoints : List EndpointSpec
  rules : List RuleSpec
deriving DecidableEq, Inhabited

inductive ManifestSection where
  | endpoint
  | rule
deriving DecidableEq

namespace ManifestSection

def label : ManifestSection → String
  | .endpoint => "endpoint"
  | .rule => "rule"

end ManifestSection

inductive ManifestError where
  | parse (error : DecodeError) (place : Place)
  | emptyName (kind : ManifestSection)
  | duplicate (kind : ManifestSection) (name : String)
  | unknownEndpoint (rule endpoint : String)
  | conflictingEndpoint (rule : String)
deriving DecidableEq

namespace ManifestError

def label : ManifestError → String
  | .parse _ _ => "Parse"
  | .emptyName _ => "EmptyName"
  | .duplicate _ _ => "Duplicate"
  | .unknownEndpoint _ _ => "UnknownEndpoint"
  | .conflictingEndpoint _ => "ConflictingEndpoint"

def text : ManifestError → String
  | .parse error place => "invalid manifest: " ++ error.report place
  | .emptyName kind => s!"{kind.label} has an empty name"
  | .duplicate kind name => s!"duplicate {kind.label} name: {name}"
  | .unknownEndpoint rule endpoint => s!"rule {rule} references unknown endpoint {endpoint}"
  | .conflictingEndpoint rule =>
    s!"rule {rule} sets both resolver_endpoint_id and resolver_endpoint_ref"

end ManifestError

namespace Manifest

def schema : Schema Manifest where
  title := "Manifest"
  blank := default
  fields := [
    .defaulted "endpoints" (.list EndpointSpec.schema.codec) Manifest.endpoints
      fun endpoints manifest => { manifest with endpoints },
    .defaulted "rules" (.list RuleSpec.schema.codec) Manifest.rules
      fun rules manifest => { manifest with rules }]

def checkNames (kind : ManifestSection) : List String → List String → Except ManifestError Unit
  | _, [] => .ok ()
  | used, name :: rest =>
    if name = "" then .error (.emptyName kind)
    else if name ∈ used then .error (.duplicate kind name)
    else checkNames kind (name :: used) rest

def checkReference (endpoints : List String) (rule : RuleSpec) : Except ManifestError Unit :=
  match rule.resolverEndpointRef with
  | none => .ok ()
  | some endpoint =>
    if rule.resolverEndpointId.isSome then .error (.conflictingEndpoint rule.name)
    else if endpoint ∈ endpoints then .ok ()
    else .error (.unknownEndpoint rule.name endpoint)

def checkReferences (endpoints : List String) : List RuleSpec → Except ManifestError Unit
  | [] => .ok ()
  | rule :: rest => do
    checkReference endpoints rule
    checkReferences endpoints rest

/-- Names of endpoints are checked first, then names of rules, then references. -/
def validate (manifest : Manifest) : Except ManifestError Unit := do
  checkNames .endpoint [] (manifest.endpoints.map EndpointSpec.name)
  checkNames .rule [] (manifest.rules.map RuleSpec.name)
  checkReferences (manifest.endpoints.map EndpointSpec.name) manifest.rules

def ofText (text : String) : Except ManifestError Manifest := do
  let manifest ← (schema.codec.decode (Json.read text)).mapError fun error =>
    .parse error (schema.codec.place text.toList error)
  manifest.validate
  pure manifest

/-- Gives a time of declaration to all that have none, so that each keeps one token. -/
def stampCreation (manifest : Manifest) (time : Timestamp) : Manifest where
  endpoints := manifest.endpoints.map fun spec =>
    { spec with createdAt := some (spec.createdAt.getD time) }
  rules := manifest.rules.map fun spec =>
    { spec with createdAt := some (spec.createdAt.getD time) }

theorem validate_stampCreation (manifest : Manifest) (time : Timestamp) :
    (manifest.stampCreation time).validate = manifest.validate := by
  have references : ∀ endpoints (rules : List RuleSpec),
      checkReferences endpoints
        (rules.map fun spec => { spec with createdAt := some (spec.createdAt.getD time) }) =
      checkReferences endpoints rules := fun endpoints rules => by
    induction rules with
    | nil => rfl
    | cons rule rest ih =>
      simp only [List.map_cons, checkReferences, ih]
      rfl
  simp only [validate, stampCreation, List.map_map, references]
  rfl

end Manifest

end Converge
