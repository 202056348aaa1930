import TunnelSoak.Rig.Lifecycle
import TunnelSoak.RunConfig

/-! A soak run: a controller is driven through reconnects and restarts until the
duration is over or a check fails, and is stopped before the run ends on every path. -/
namespace TunnelSoak

/-- The clock of a machine, as a run sees it from its start on. It counts seconds in 63
bits, and what the machine has been up for is taken off them. -/
structure Clock where
  /-- The clock does not show this time, nor any later one. -/
  endMs : Nat
  /-- How long a sleep lasts that would be over only after the end. No machine has been up
  for longer. -/
  farMs : Nat
  roomy : Nat.pow 2 63 * 1000 ≤ endMs + farMs
  far_pos : 0 < farMs
  far_le : farMs ≤ Nat.pow 2 61 * 1000

namespace Clock

def add? (c : Clock) (time ms : Nat) : Option Nat :=
  if c.endMs ≤ time + ms then none else some (time + ms)

def overflow : String := "overflow when adding duration to instant"

/-- The clock of a machine that has been up for so long. -/
def since (uptimeMs : Nat) : Clock :=
  let farMs := 30 * 365 * 86400 * 1000
  { endMs := Nat.pow 2 63 * 1000 - min uptimeMs farMs
    farMs
    roomy := by omega
    far_pos := by decide
    far_le := by decide }

/-- A day is what a machine has been up for, where nothing else is said. -/
instance : Inhabited Clock := ⟨since (86400 * 1000)⟩

end Clock

/-- What a run depends on. The coin is indexed by its flips and the readings by the
samples, both from zero. -/
structure Setup where
  config : RunConfig
  plan : Controller.Plan
  coin : Nat → Bool
  readings : Nat → MemoryReading
  clock : Clock := default

namespace Setup

/-- The readings of a list in order, and its last one from then on. -/
def readingsOf (list : List MemoryReading) (n : Nat) : MemoryReading :=
  match list[n]? with
  | some reading => reading
  | none => list.getLast?.getD ⟨0, 0⟩

def intervalMs (setup : Setup) : Nat := setup.config.sampleIntervalSecs * 1000

def durationMs (setup : Setup) : Nat := setup.config.durationSecs * 1000

/-- The loop sleeps until its deadline, which is the duration if the clock shows it. -/
def deadlineMs (setup : Setup) : Nat :=
  if setup.clock.endMs ≤ setup.durationMs then setup.clock.farMs else setup.durationMs

end Setup

structure Report where
  mode : Mode
  tunnelsEstablished : Nat
  reconnects : Nat
  restarts : Nat
  samples : Nat
  peakSystemMemory : Nat
  lastCumulativeAllocated : Nat
  elapsedMs : Nat
  deriving DecidableEq, Repr

namespace Soak

inductive Stage where
  | selecting
  /-- Waiting for a controller that is to be replaced. -/
  | restarting (controller : Nat)
  /-- Waiting for the last controller, with the outcome of the loop. -/
  | closing (controller : Nat) (outcome : Except Failure Unit)
  | over (result : Except Failure Report)
  | panicked (message : String)

end Soak

structure Soak where
  rig : Rig
  stage : Soak.Stage := .selecting
  deadline : Nat := 0
  nextTick : Nat := 0
  detector : StallDetector := {}
  reconnects : Nat := 0
  restarts : Nat := 0
  samples : Nat := 0
  peak : Nat := 0
  lastCumulative : Nat := 0

namespace Soak

def record (s : Soak) (event : Event) : Soak := { s with rig := s.rig.record event }

def report (s : Soak) : Report where
  mode := s.rig.dispatcher.mode
  tunnelsEstablished := s.rig.dispatcher.tracker.established
  reconnects := s.reconnects
  restarts := s.restarts
  samples := s.samples
  peakSystemMemory := s.peak
  lastCumulativeAllocated := s.lastCumulative
  elapsedMs := s.rig.now

def fail (s : Soak) (failure : Failure) : Soak :=
  { s.record (.runFailed failure s.rig.dispatcher.tracker.established s.samples) with
    stage := .over (.error failure) }

/-- End the run. What the loop found goes before what the last stop found. -/
def conclude (s : Soak) (outcome stopped : Except Failure Unit) : Soak :=
  match outcome, stopped with
  | .ok (), .ok () =>
    { s.record (.runPassed s.rig.dispatcher.tracker.established s.reconnects s.restarts s.peak) with
      stage := .over (.ok s.report) }
  | .ok (), .error failure => s.fail failure
  | .error failure, _ => s.fail failure

def close (s : Soak) (outcome : Except Failure Unit) : Soak :=
  match s.rig.cancel with
  | (none, rig) => { s with rig }.conclude outcome (.ok ())
  | (some controller, rig) => { s with rig, stage := .closing controller outcome }

/-- Check the settings, start the first controller and set the clocks. -/
def begin (setup : Setup) : Soak :=
  let c := setup.config
  let rig : Rig := { dispatcher := { mode := c.mode, settleMs := c.settleDelayMs } }
  match c.validate with
  | .error failure => { rig, stage := .over (.error failure) }
  | .ok () =>
    let rig := rig.record (.runStarted c.durationSecs c.sampleIntervalSecs c.maxSysMemory)
    match rig.start setup.plan with
    | (.error failure, rig) => { rig, stage := .over (.error failure) }
    | (.ok (), rig) =>
      match setup.clock.add? 0 setup.intervalMs with
      | none => { rig, stage := .panicked Clock.overflow }
      | some nextTick => { rig, deadline := setup.deadlineMs, nextTick }

end Soak

end TunnelSoak
