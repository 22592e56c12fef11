import Converge.Collection
import Converge.Condition
import Converge.Context
import Converge.Delta
import Converge.Manager
import Converge.Outcome
import Converge.Pages
import Converge.Pass
import Converge.TagSync
import Converge.Timestamp.Text
import Converge.Token
import Converge.Decimal.Shortest
import Converge.Json.Number
import Converge.Json.Document
import Converge.Json.Reader
import Converge.Json.Writer
import Converge.Json.Decode
import Converge.Json.Schema
import Converge.Json.Place
import Converge.Manifest
import Converge.Provider.Call
import Converge.Provider.Journal
import Converge.Provider.Registry
import Converge.Provider.World
import Converge.Resolver.EndpointManager
import Converge.Resolver.RuleManager
import Converge.Agent.Backoff
import Converge.Agent.Reference
import Converge.Agent.Run
import Converge.Agent.Teardown
import Converge.CommandLine
import Converge.Main
import Converge.Agent.Format
import Converge.Agent.Visit
import Converge.Json.Canonical
import Converge.Provider.Format
import Converge.Proofs.Course
import Converge.Proofs.Listing
import Converge.Proofs.Registry.Growth
import Converge.Proofs.Provider.Ledger
import Converge.Proofs.Confirmation
import Converge.Proofs.Endpoint.Convergence
import Converge.Proofs.Rule.Convergence
import Converge.Proofs.Traffic.Safety
import Converge.Proofs.Agent.References
import Converge.Proofs.Agent.Teardown
import Converge.Proofs.Agent.History
import Converge.Proofs.TagReports
import Converge.Proofs.Rule.Fidelity
import Converge.Proofs.Preservation
import Converge.Proofs.Deadlines
import Converge.Proofs.Endpoint.Tallies
import Converge.Proofs.Agent.Integrity
import Converge.Proofs.Provider.Atomicity
import Converge.Proofs.Endpoint.Interleaving
import Converge.Proofs.KeyedDiff
import Converge.Proofs.Gates
import Converge.Proofs.Endpoint.Minimum
import Converge.Proofs.Tokens
import Converge.Proofs.Registry.Admission
import Converge.Proofs.Provider.Walks
import Converge.Proofs.Rule.Finalization
import Converge.Proofs.ConditionHistory
import Converge.Proofs.Paths
import Converge.Proofs.Cancellation
import Converge.Proofs.Provider.Repetition
import Converge.Proofs.Validation
import Converge.Proofs.Rule.Domains
import Converge.Proofs.Agent.Delays
import Converge.Proofs.Records
