import Converge.Agent.Run

/-! Taking down what an agent has set up. Rules go first, since they refer to endpoints. What could
not be deleted stays in the table. -/
namespace Converge

open Converge.Provider Converge.Resolver

structure TeardownError where
  left : Nat
deriving DecidableEq

namespace TeardownError

def text (error : TeardownError) : String := s!"{error.left} resources could not be deleted"

end TeardownError

namespace Agent

/-- Deletes the resources of one kind in the order of their names, each in its own time. Returns the
entries that are left. -/
def deleteAll {D O : Type} (manager : Manager Call Call.Reply D O) (timeout : Option Nat) :
    List (String × Entry O) → NameMap (Entry O) → World → NameMap (Entry O) × World
  | [], left, world => (left, world)
  | (name, entry) :: rest, left, world =>
    let bounds : Bounds := ⟨timeout.map (world.time + ·), none⟩
    match (manager.finalize entry.observed).run (World.serve bounds) world with
    | (.ok (), world) => deleteAll manager timeout rest (left.erase name) world
    | (.error _, world) => deleteAll manager timeout rest left world

def held (agent : Agent) : Nat := agent.table.rules.size + agent.table.endpoints.size

def deleteHeld (agent : Agent) (world : World) : Agent × World :=
  let timeout := agent.config.callTimeout
  let table := agent.table
  let (rules, world) := deleteAll ruleManager timeout table.rules.entries table.rules world
  let (endpoints, world) :=
    deleteAll endpointManager timeout table.endpoints.entries table.endpoints world
  ({ agent with table := ⟨endpoints, rules⟩ }, world)

/-- Deletes everything in the table. It fails if anything is left. -/
def teardown (agent : Agent) (world : World) : Except TeardownError Unit × Agent × World :=
  let (agent, world) := agent.deleteHeld world
  (if agent.held = 0 then .ok () else .error ⟨agent.held⟩, agent, world)

end Agent

end Converge
