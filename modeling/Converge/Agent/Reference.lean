import Converge.Agent.Status

/-! References from rules to endpoints. A rule that names an endpoint waits until the endpoint has
an id, and gives up if the endpoint has. -/
namespace Converge.StatusTable

open Converge.Resolver

def endpointId (table : StatusTable) (name : String) : Except Failure String :=
  let entry := (table.endpoints.get? name).getD .empty
  match entry.outcome with
  | some (.fatal reason) => .error (.terminal s!"resolver endpoint {name} failed: {reason}")
  | _ => match entry.observed.bind Endpoint.id? with
    | some id => .ok id
    | none => .error (.validation s!"resolver endpoint {name} has no id yet")

/-- Puts the id of an endpoint in the place of its name. -/
def resolve (table : StatusTable) (spec : RuleSpec) : Except Failure RuleSpec :=
  match spec.resolverEndpointRef with
  | none => .ok spec
  | some name => do
    let id ← table.endpointId name
    pure { spec with resolverEndpointId := some id }

end Converge.StatusTable
