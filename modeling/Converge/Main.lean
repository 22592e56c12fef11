import Converge.CommandLine
import Std.Time.DateTime.Timestamp

/-! The program. It keeps the resources of a manifest as they are desired, in real time. -/
namespace Converge

open CommandLine

def movesAtOnce : Nat := 1000000000

partial def runInTime (schedule : Schedule) : IO Run := do
  let schedule := schedule.settle movesAtOnce
  if schedule.run.isFinished then pure schedule.run
  else
    let now := schedule.run.time
    let next := schedule.run.nextTime.getD (now + 3600000)
    IO.sleep (UInt32.ofNat (min (next - now) 3600000))
    let reached := min next (now + 3600000)
    runInTime { schedule with run := schedule.run.passTime reached }

def clockFrom (millis : Nat) (time : Nat) : Timestamp :=
  (Timestamp.ofMillis? ((millis + time : Nat) : Int)).getD .epoch

def execute (options : Options) : IO Output := do
  match ← (IO.FS.readFile options.manifest).toBaseIO with
  | .error failure => pure (unreadableOutput options.manifest (toString failure))
  | .ok text => do
    let started ← Std.Time.Timestamp.now
    match begin options text (clockFrom started.toMillisecondsSinceUnixEpoch.toInt.toNat) with
    | .error output => pure output
    | .ok schedule => do
      let run ← runInTime schedule
      pure (conclude options run)

def perform : Command → IO Output
  | .run options => execute options
  | .help => pure helpOutput
  | .version => pure versionOutput
  | .refused => pure refusedOutput

end Converge

def main (arguments : List String) : IO UInt32 := do
  let output ← Converge.perform (Converge.CommandLine.read arguments)
  (← IO.getStdout).putStr output.stdout
  (← IO.getStderr).putStr output.stderr
  pure (UInt32.ofNat output.exitCode)
