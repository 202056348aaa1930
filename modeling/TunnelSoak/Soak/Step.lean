import TunnelSoak.Soak

/-! The moves of a run. At any moment several may be open: the loop services one of
the things that are ready, the controller acts, and time passes only when nothing
else can happen. A move that is not open gives none. -/
namespace TunnelSoak.Soak

inductive Move where
  | deadline
  | tick
  | reconnect
  | restart
  /-- A stop for which the loop waits comes to its end. -/
  | join
  /-- A controller acts, heeding its cancellation or what it waited for. -/
  | act (controller : Nat) (heed : Bool)
  | elapse
  deriving DecidableEq, Repr

/-- How late a sample may come without moving the ones after it, in milliseconds. -/
def tickSlackMs : Nat := 5

/-- The tick after one that is ready now: one interval after it or, where it is late, after
now. Only a late one finds no room on the clock; otherwise the tick is put far away. -/
def tickAfter? (setup : Setup) (s : Soak) : Option Nat := do
  let lateFrom ← setup.clock.add? s.nextTick tickSlackMs
  if s.rig.now ≤ lateFrom then
    (setup.clock.add? s.nextTick setup.intervalMs).or
      (setup.clock.add? s.rig.now setup.clock.farMs)
  else setup.clock.add? s.rig.now setup.intervalMs

def measure (s : Soak) (reading : MemoryReading) : Soak :=
  { s.record (.memoryRead reading) with
    samples := s.samples + 1
    peak := max s.peak reading.system
    lastCumulative := reading.cumulative }

/-- The checks of a sample: first the ceiling, then progress. -/
def inspect (setup : Setup) (s : Soak) : Except Failure Unit × Soak :=
  let reading := setup.readings s.samples
  let s := s.measure reading
  let ceiling := setup.config.maxSysMemory
  if ceiling < reading.system then (.error (.ceilingExceeded reading.system ceiling), s)
  else
    let tunnels := s.rig.dispatcher.tracker.established
    let s := s.record (.sampled s.samples tunnels reading)
    match s.detector.observe tunnels with
    | .error failure => (.error failure, s)
    | .ok detector =>
      (.ok (), { s.record (.progressAdvanced s.detector.last tunnels) with detector })

def reconnect (s : Soak) : Soak :=
  let (_, rig) := s.rig.take .reconnect
  let (_, rig) := (rig.record (.requestTaken .reconnect)).terminate
  { s with rig, reconnects := s.reconnects + 1 }

def renew (setup : Setup) (s : Soak) : Except Failure Unit → Soak
  | .error failure => s.close (.error failure)
  | .ok () =>
    match s.rig.start setup.plan with
    | (.error failure, rig) => { s with rig }.close (.error failure)
    | (.ok (), rig) => { s with rig, stage := .selecting, restarts := s.restarts + 1 }

def restart (setup : Setup) (s : Soak) : Soak :=
  let (_, rig) := s.rig.take .restart
  match (rig.record (.requestTaken .restart)).cancel with
  | (none, rig) => { s with rig }.renew setup (.ok ())
  | (some controller, rig) => { s with rig, stage := .restarting controller }

def join (setup : Setup) (s : Soak) : Option Soak :=
  match s.stage with
  | .restarting controller =>
    (s.rig.join controller).map fun (stopped, rig) => { s with rig }.renew setup stopped
  | .closing controller outcome =>
    (s.rig.join controller).map fun (stopped, rig) => { s with rig }.conclude outcome stopped
  | _ => none

def isSelecting (s : Soak) : Bool :=
  match s.stage with
  | .selecting => true
  | _ => false

def isReady (s : Soak) : Move → Bool
  | .deadline => s.isSelecting && decide (s.deadline ≤ s.rig.now)
  | .tick => s.isSelecting && decide (s.nextTick ≤ s.rig.now)
  | .reconnect => s.isSelecting && s.rig.dispatcher.reconnect
  | .restart => s.isSelecting && s.rig.dispatcher.restart
  | _ => false

def loopServices : List Move := [.deadline, .tick, .reconnect, .restart]

def isIdle (setup : Setup) (s : Soak) : Bool :=
  loopServices.all (fun move => !s.isReady move) && (s.join setup).isNone &&
    s.rig.tasks.all fun t => (t.step s.rig.now true).isNone

def dues (s : Soak) : List Nat :=
  (if s.isSelecting then [s.deadline, s.nextTick] else []) ++
    s.rig.tasks.filterMap Controller.Task.due?

def step (setup : Setup) (s : Soak) : Move → Option Soak
  | .deadline =>
    if s.isReady .deadline then some ((s.record .durationElapsed).close (.ok ())) else none
  | .tick =>
    if s.isReady .tick then
      match s.tickAfter? setup with
      | none => some { s with stage := .panicked Clock.overflow }
      | some nextTick =>
        match { s with nextTick }.inspect setup with
        | (.ok (), s) => some s
        | (.error failure, s) => some (s.close (.error failure))
    else none
  | .reconnect => if s.isReady .reconnect then some s.reconnect else none
  | .restart => if s.isReady .restart then some (s.restart setup) else none
  | .join => s.join setup
  | .act controller heed =>
    (s.rig.stepTask setup.coin controller heed).map fun rig => { s with rig }
  | .elapse =>
    if s.isIdle setup then s.dues.min?.map fun due => { s with rig.now := max s.rig.now due }
    else none

/-- The states that a run can come to by its moves. -/
inductive Reachable (setup : Setup) : Soak → Prop
  | begin : Reachable setup (Soak.begin setup)
  | step {s next : Soak} (move : Move) :
    Reachable setup s → s.step setup move = some next → Reachable setup next

end TunnelSoak.Soak
