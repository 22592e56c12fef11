import Converge.Agent.Teardown
import Converge.Json.Writer

/-! The command line: which options there are, and what a run of the program says and returns. -/
namespace Converge.CommandLine

open Converge.Json Converge.Provider

structure Options where
  manifest : String
  config : AgentConfig
  teardown : Bool
  site : Site
deriving DecidableEq

inductive Command where
  | run (options : Options)
  | help
  | version
  | refused
deriving DecidableEq

inductive Takes where
  | path
  | number (usual : Nat)
  | text (usual : String)
  | nothing
deriving DecidableEq

structure Flag where
  name : String
  purpose : String
  takes : Takes
deriving DecidableEq

def flags : List Flag := [
  ⟨"manifest", "Manifest of desired resources (JSON)", .path⟩,
  ⟨"workers", "Maximum reconcile passes in flight", .number 4⟩,
  ⟨"resync-interval", "Seconds between checks of a converged resource", .number 60⟩,
  ⟨"min-backoff", "First retry delay in milliseconds", .number 500⟩,
  ⟨"max-backoff", "Longest retry delay in milliseconds", .number 60000⟩,
  ⟨"refresh-delay", "Milliseconds before re-reading a resource after an asynchronous change",
    .number 5000⟩,
  ⟨"settle-delay", "Milliseconds between checks of a resource in a transitional status",
    .number 15000⟩,
  ⟨"call-timeout", "Deadline for one reconcile pass in seconds (0 disables it)", .number 30⟩,
  ⟨"once", "Exit once every resource has converged or failed terminally", .nothing⟩,
  ⟨"teardown", "Delete every managed resource before exiting", .nothing⟩,
  ⟨"region", "Region used in resource ARNs", .text "us-west-2"⟩,
  ⟨"account-id", "Account id used in resource ARNs", .text "000000000000"⟩,
  ⟨"page-size", "Items per page returned by list calls", .number 10⟩]

def takes? (name : String) : Option Takes :=
  (flags.find? fun flag => flag.name = name).map Flag.takes

def readNumber? (text : String) : Option Nat :=
  (readOffset? text).filter fun number => number < Nat.pow 2 64

namespace Takes

def fits : Takes → String → Bool
  | .path, value => value ≠ ""
  | .number _, value => (readNumber? value).isSome
  | .text _, _ => true
  | .nothing, _ => false

def usualNumber : Takes → Nat
  | .number usual => usual
  | _ => 0

def usualText : Takes → String
  | .text usual => usual
  | _ => ""

end Takes

def isDashed (argument : String) : Bool :=
  match argument.toList with
  | '-' :: _ :: _ => true
  | _ => false

def splitAssignment (text : List Char) : List Char × Option (List Char) :=
  let name := text.takeWhile fun c => c ≠ '='
  match text.drop name.length with
  | [] => (name, none)
  | _ :: value => (name, some value)

def optionsOf (found : NameMap String) : Option Options := do
  let number (name : String) : Nat :=
    ((found.get? name).bind readNumber?).getD ((takes? name).elim 0 Takes.usualNumber)
  let text (name : String) : String :=
    (found.get? name).getD ((takes? name).elim "" Takes.usualText)
  let timeout := number "call-timeout"
  let manifest ← found.get? "manifest"
  pure
    { manifest
      config :=
        { workers := number "workers"
          resyncInterval := number "resync-interval" * 1000
          minBackoff := number "min-backoff"
          maxBackoff := number "max-backoff"
          callTimeout := if timeout = 0 then none else some (timeout * 1000)
          once := found.contains "once"
          delays := ⟨number "refresh-delay", number "settle-delay"⟩ }
      teardown := found.contains "teardown"
      site :=
        { region := text "region"
          accountId := text "account-id"
          pageSize := max 1 (number "page-size") } }

def finish (found : NameMap String) : Command :=
  match optionsOf found with
  | some options => .run options
  | none => .refused

/-- Reads arguments from left to right. The first fault refuses them all, and so does an option that
comes twice; what asks for help or for the version is answered where it stands. -/
def readArguments (found : NameMap String) : List String → Command
  | [] => finish found
  | argument :: rest =>
    match argument.toList with
    | ['-', '-'] => if rest.isEmpty then finish found else .refused
    | '-' :: '-' :: text =>
      let (name, attached) := splitAssignment text
      let name := String.ofList name
      if found.contains name then .refused
      else match takes? name, attached, rest with
        | some .nothing, none, rest => readArguments (found.insert name "") rest
        | some takes, some value, rest =>
          let value := String.ofList value
          if takes.fits value then readArguments (found.insert name value) rest else .refused
        | some takes, none, value :: rest =>
          if !isDashed value && takes.fits value then
            readArguments (found.insert name value) rest
          else .refused
        | none, none, _ =>
          if name = "help" then .help
          else if name = "version" then .version
          else .refused
        | _, _, _ => .refused
    | '-' :: 'h' :: _ => .help
    | '-' :: 'V' :: _ => .version
    | _ => .refused

def read (arguments : List String) : Command := readArguments ∅ arguments

structure Output where
  exitCode : Nat
  stdout : String
  stderr : String
deriving DecidableEq

def versionOutput : Output := ⟨0, "recon-agent 0.1.0\n", ""⟩

def usage : String := "Usage: recon-agent [OPTIONS] --manifest <MANIFEST>\n"

def placeholder (name : String) : String :=
  name.map fun c => if c = '-' then '_' else c.toUpper

namespace Flag

def form (flag : Flag) : String :=
  match flag.takes with
  | .nothing => s!"--{flag.name}"
  | _ => s!"--{flag.name} <{placeholder flag.name}>"

def explanation (flag : Flag) : String :=
  match flag.takes with
  | .number usual => s!"{flag.purpose} [default: {usual}]"
  | .text usual => s!"{flag.purpose} [default: {usual}]"
  | _ => flag.purpose

end Flag

def helpLines (form explanation : String) : String := s!"{form}\n          {explanation}\n"

def helpOutput : Output :=
  let options := flags.map fun flag => helpLines s!"      {flag.form}" flag.explanation
  let others := [helpLines "  -h, --help" "Print help", helpLines "  -V, --version" "Print version"]
  let about := "recon agent - drives resolver endpoints and rules toward a declared manifest\n\n"
  ⟨0, about ++ usage ++ "\nOptions:\n" ++ String.join (options ++ others), ""⟩

def refusedOutput : Output := ⟨2, "", "error: invalid arguments\n\n" ++ usage⟩

def hang (blanks : Nat) (text : String) : String :=
  String.ofList <| text.toList.flatMap fun c =>
    c :: if c = '\n' then List.replicate blanks ' ' else []

/-- A failure with its causes, from the outermost on. Several causes are numbered, and the lines of
each start in one column. -/
def failedOutput (stdout message : String) (causes : List String) : Output :=
  let lines := match causes with
    | [] => []
    | [cause] => ["\n\nCaused by:\n    ", hang 4 cause]
    | causes => "\n\nCaused by:" :: causes.mapIdx fun i cause => s!"\n    {i}: {hang 7 cause}"
  ⟨1, stdout, s!"Error: {message}" ++ String.join lines ++ "\n"⟩

def loadMessage (path : String) : String := s!"Failed to load manifest {path}"

def unreadableOutput (path reason : String) : Output :=
  failedOutput "" (loadMessage path) [s!"failed to read {path}: {reason}", reason]

def invalidOutput (path : String) (error : ManifestError) : Output :=
  let detail := match error with
    | .parse error place => [error.report place]
    | _ => []
  failedOutput "" (loadMessage path) (error.text :: detail)

def newWorld (site : Site) (clock : Nat → Timestamp) : World :=
  { site, latency := 0, journal := ∅, registry := ∅, time := 0, clock }

def mostWorkers : Nat := Nat.pow 2 61 - 1

def crowdedOutput (workers : Nat) : Output :=
  ⟨101, "", s!"{workers} workers are more than {mostWorkers}\n"⟩

def begin (options : Options) (text : String) (clock : Nat → Timestamp) :
    Except Output Schedule :=
  match Manifest.ofText text with
  | .error error => .error (invalidOutput options.manifest error)
  | .ok manifest =>
    if mostWorkers < options.config.workers then .error (crowdedOutput options.config.workers)
    else
      let world := newWorld options.site clock
      .ok (.start (.start (.new manifest options.config world.now) world none))

def conclude (options : Options) (run : Run) : Output :=
  let lines := run.table.summary.map Summary.write
  let stdout := (Document.list lines).indented 0 ++ "\n"
  if options.teardown then
    let agent : Agent := ⟨⟨[], []⟩, options.config, run.table⟩
    match (agent.teardown run.world).1 with
    | .ok () => ⟨0, stdout, ""⟩
    | .error error => failedOutput stdout error.text []
  else ⟨0, stdout, ""⟩

end Converge.CommandLine
