import TunnelSoak.Directory
import TunnelSoak.Environment
import TunnelSoak.Log.Format
import TunnelSoak.Settings
import TunnelSoak.Simulation.Script
import TunnelSoak.Soak.Run
import TunnelSoak.Style

/-! The run command: one soak of the simulated controller. Every run gets a directory
for its data, which is gone when the run is over. A controller configuration that
is asked for and does not exist skips the run. -/
namespace TunnelSoak

inductive Trouble where
  | configUnreadable (path : String)
  | configMalformed
  | controllerUnreadable (path : String)
  | controllerUnusable (path : String) (failure : Failure)
  | scratchRefused
  | dataRefused
  deriving DecidableEq, Repr

namespace Trouble

def message : Trouble → String
  | configUnreadable path => "Failed to read config file " ++ path
  | configMalformed => "Failed to parse config file"
  | controllerUnreadable path => "Failed to read controller config " ++ path
  | controllerUnusable path _ => "Failed to process controller config " ++ path
  | scratchRefused => "Failed to create scratch directory"
  | dataRefused => "Failed to create controller data directory"

def cause? : Trouble → Option Failure
  | controllerUnusable _ failure => some failure
  | _ => none

end Trouble

inductive Verdict where
  | passed (report : Report)
  | failed (failure : Failure)
  | skipped (path : String)
  | panicked (message : String)
  deriving DecidableEq, Repr

namespace Verdict

def line? (coloured : Bool) : Verdict → Option String
  | passed r => some (Style.green.paint coloured "✓ PASS:" ++ " " ++
      toString r.tunnelsEstablished ++ " tunnels, " ++ toString r.reconnects ++ " reconnects, " ++
      toString r.restarts ++ " restarts, peak sys memory " ++ ByteCount.text r.peakSystemMemory)
  | failed failure =>
    let word := if failure.isCheck then "✗ FAIL:" else "✗ ERROR:"
    some (Style.red.paint coloured word ++ " " ++ failure.message)
  | skipped path =>
    some (Style.yellow.paint coloured "⚠ SKIP:" ++ " controller config not found: " ++ path)
  | panicked _ => none

def exitCode : Verdict → Nat
  | passed _ => 0
  | failed _ => 1
  | skipped _ => 0
  | panicked _ => 101

def ofSoak? (s : Soak) : Option Verdict :=
  match s.stage with
  | .over (.ok report) => some (.passed report)
  | .over (.error failure) => some (.failed failure)
  | .panicked message => some (.panicked message)
  | _ => none

end Verdict

structure Console where
  coloured : Bool
  /-- Log lines are part of the output. -/
  log : Option Log.Format
  runId : String
  /-- The time of day when a run has lasted so many milliseconds. -/
  clock : Nat → Moment

namespace Console

def startLine (c : Console) (config : RunConfig) : String :=
  Style.cyan.paint c.coloured "Starting soak run:" ++ " " ++
    Style.bold.paint c.coloured config.mode.name ++ " (" ++ toString config.durationSecs ++
    "s, sample every " ++ toString config.sampleIntervalSecs ++ "s, ceiling " ++
    ByteCount.text config.maxSysMemory ++ ")"

def statusLine (c : Console) (time tunnels : Nat) (reading : MemoryReading) : String :=
  "[" ++ (c.clock time).clock ++ "] Tunnels established: " ++
    Style.bold.paint c.coloured (toString tunnels) ++ ", sys memory: " ++
    ByteCount.text reading.system ++ ", cumulative allocations: " ++
    ByteCount.text reading.cumulative

def status? (c : Console) (entry : Entry) : Option String :=
  match entry.event with
  | .sampled _ tunnels reading => some (c.statusLine entry.time tunnels reading)
  | _ => none

def logLine? (c : Console) (mode : Mode) (entry : Entry) : Option String := do
  let format ← c.log
  let line ← Log.line? entry.event
  format.text? ⟨c.runId, mode⟩ (c.clock entry.time).logStamp line

def entryLines (c : Console) (mode : Mode) (entry : Entry) : List String :=
  (c.logLine? mode entry).toList ++ (c.status? entry).toList

def soakLines (c : Console) (s : Soak) : List String :=
  s.rig.trace.reverse.flatMap (c.entryLines s.rig.dispatcher.mode)

end Console

namespace Launch

/-- The configuration file's settings. No file means the defaults, and so does one that
is hidden. -/
def settings (e : Environment) (find : String → Found) (path : String) :
    Except Trouble Settings :=
  match find path with
  | .missing | .hidden => .ok (({} : Settings.Draft).settings e.tempDir)
  | .unreadable => .error (.configUnreadable path)
  | .content bytes =>
    match Json.text? bytes with
    | none => .error (.configUnreadable path)
    | some text =>
      match Settings.Draft.parse? text with
      | none => .error .configMalformed
      | some draft => .ok (draft.settings e.tempDir)

/-- What is handed to the controller, or none if the named file is missing or hidden. -/
def controllerParams (find : String → Found) : Option String →
    Except Trouble (Option Controller.Params)
  | none => .ok (some {})
  | some path =>
    match find path with
    | .missing | .hidden => .ok none
    | .unreadable => .error (.controllerUnreadable path)
    | .content bytes =>
      match Controller.Params.ofDocument bytes with
      | .ok params => .ok (some params)
      | .error failure => .error (.controllerUnusable path failure)

def runConfig (settings : Settings) (params : Controller.Params) (dataDir : Json.Bytes) :
    RunConfig :=
  { settings.run with controller := params.withSoakOverrides dataDir }

structure Surroundings where
  console : Console
  coin : Nat → Bool
  readings : Nat → MemoryReading
  /-- The path of a fresh directory below the scratch directory. -/
  dataDir : (scratchDir : String) → Json.Bytes
  clock : Clock := default

def setup (around : Surroundings) (settings : Settings) (params : Controller.Params) : Setup where
  config := runConfig settings params (around.dataDir settings.scratchDir)
  plan := settings.simulation.plan
  coin := around.coin
  readings := around.readings
  clock := around.clock

structure Outcome (α : Type) where
  lines : List String := []
  directory : Directory
  result : Except Trouble α

def soakOutput (console : Console) (config : RunConfig) (s : Soak) (verdict : Verdict) :
    List String :=
  console.startLine config :: console.soakLines s ++ (verdict.line? console.coloured).toList

/-- Carry out a run; none if it does not end within its fuel. -/
def run (around : Surroundings) (fuel : Nat) (directory : Directory) (settings : Settings) :
    Option (Outcome Verdict) :=
  match controllerParams directory.find settings.controllerConfig with
  | .error trouble => some { directory, result := .error trouble }
  | .ok none =>
    let verdict := Verdict.skipped (settings.controllerConfig.getD "")
    some { lines := (verdict.line? around.console.coloured).toList, directory
           result := .ok verdict }
  | .ok (some params) =>
    match directory.create settings.scratchDir with
    | (false, directory) => some { directory, result := .error .scratchRefused }
    | (true, directory) => do
      let setup := setup around settings params
      let s ← Soak.run setup fuel
      let verdict ← Verdict.ofSoak? s
      some { lines := soakOutput around.console setup.config s verdict, directory
             result := .ok verdict }

end Launch

end TunnelSoak
