import TunnelSoak.Controller.Task
import TunnelSoak.Trace

/-! The test rig: the clock, the dispatcher, the factory and the controllers it has
built, with the handle by which they are started and stopped. It is everything in a
run except the loop that decides what to do. -/
namespace TunnelSoak

/-- Whether a controller is managed, as the operations on it leave it. -/
inductive Phase where
  | stopped
  | starting
  | running
  | stopping
  deriving DecidableEq, Repr

def Phase.name : Phase → String
  | .stopped => "stopped"
  | .starting => "starting"
  | .running => "running"
  | .stopping => "stopping"

structure Lifecycle where
  phase : Phase := .stopped
  /-- The controller that is running, for all that is known here. -/
  handle : Option Nat := none
  /-- Successful starts. -/
  starts : Nat := 0
  deriving DecidableEq, Repr

structure Counters where
  attempts : Nat := 0
  constructed : Nat := 0
  live : Nat := 0
  peakLive : Nat := 0
  established : Nat := 0
  terminations : Nat := 0
  terminateCalls : Nat := 0
  deriving DecidableEq, Repr

structure Rig where
  now : Nat := 0
  dispatcher : Dispatcher
  lifecycle : Lifecycle := {}
  counters : Counters := {}
  /-- Controllers that have been started and not yet joined, the latest first. -/
  tasks : List Controller.Task := []
  trace : List Entry := []

namespace Rig

open Controller (Task Effect)

def record (rig : Rig) (event : Event) : Rig :=
  { rig with trace := ⟨rig.now, event⟩ :: rig.trace }

def recordAll (rig : Rig) (events : List Event) : Rig := events.foldl record rig

def task? (rig : Rig) (id : Nat) : Option Task := rig.tasks.find? fun t => t.id = id

def updateIn (id : Nat) (change : Task → Task) : List Task → List Task
  | [] => []
  | t :: tasks => if t.id = id then change t :: tasks else t :: updateIn id change tasks

def update (rig : Rig) (id : Nat) (change : Task → Task) : Rig :=
  { rig with tasks := updateIn id change rig.tasks }

def dispatched (rig : Rig) (id : Nat) (result : Dispatched) : Rig :=
  (rig.update id fun t => { t with stage := .ready }).record (.dispatched result)

def settle (coin : Nat → Bool) (rig : Rig) (id established : Nat) : Rig :=
  let (result, dispatcher) := rig.dispatcher.settle coin
  ({ rig with dispatcher }.recordAll (Event.ofSettled established result)).dispatched id result

/-- Controller `id` delivers a notice: it goes on at once, or after the settle delay
of an establishment. -/
def deliver (coin : Nat → Bool) (rig : Rig) (id : Nat) (notice : List UInt8) : Rig :=
  let rig := rig.record (.noticeEmitted id notice)
  let (arrival, dispatcher) := rig.dispatcher.arrive notice
  let rig := { rig with dispatcher }.recordAll (Event.ofArrival notice)
  match arrival with
  | .finished result => rig.dispatched id result
  | .established count =>
    if dispatcher.settleMs = 0 then rig.settle coin id count
    else
      rig.update id fun t => { t with stage := .settling (rig.now + dispatcher.settleMs) count }

def enter (c : Counters) : Counters :=
  { c with live := c.live + 1, peakLive := max c.peakLive (c.live + 1) }

/-- A controller is over. Unless it left tidily it is counted as live for ever. -/
def leave (tidy : Bool) (c : Counters) : Counters := { c with live := c.live - tidy.toNat }

def effect (coin : Nat → Bool) (rig : Rig) (id : Nat) (announced : Bool) : Effect → Rig
  | .none => rig
  | .begin =>
    { rig with counters := enter rig.counters }.record (.controllerRunning id announced)
  | .deliver notice => rig.deliver coin id notice
  | .settle established => rig.settle coin id established
  | .raise =>
    { rig with counters.established := rig.counters.established + 1 }
  | .lower =>
    { rig with counters.terminations := rig.counters.terminations + 1 }
  | .exit =>
    { rig with counters := leave true rig.counters }.record (.controllerExited id announced)
  | .crash message tidy =>
    { rig with counters := leave tidy rig.counters }.record (.controllerCrashed id message tidy)

/-- One step of controller `id`, or none while it waits. -/
def stepTask (coin : Nat → Bool) (rig : Rig) (id : Nat) (heed : Bool) : Option Rig := do
  let t ← rig.task? id
  let (next, e) ← t.step rig.now heed
  some ((rig.update id fun _ => next).effect coin id t.script.announced e)

end Rig

end TunnelSoak
