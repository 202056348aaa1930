import TunnelSoak.Controller.Script

/-! A controller at work. One step carries out one act, or resumes one that waited;
its effect on everything else is left to whoever runs the controller. Where both
cancellation and the awaited thing are ready, `heed` says which one is noticed. -/
namespace TunnelSoak.Controller

inductive Stage where
  /-- Started, but nothing done yet. -/
  | spawned
  | ready
  | sleeping (due : Nat)
  /-- Waiting for a request to terminate. -/
  | parked
  /-- The request has come. -/
  | woken
  /-- Delivering a notice that counted as establishment number `established`. -/
  | settling (due established : Nat)
  /-- The run part is over. -/
  | finished
  | exited
  | crashed (message : String)
  deriving DecidableEq, Repr

structure Task where
  id : Nat
  script : Script
  stage : Stage := .spawned
  /-- The acts of the current part that are left. -/
  todo : List Act := []
  shuttingDown : Bool := false
  cancelled : Bool := false
  /-- A request to terminate that came while nobody waited; there is at most one. -/
  permit : Bool := false
  tunnelUp : Bool := false
  deriving DecidableEq, Repr

inductive Effect where
  | none
  | begin
  | deliver (notice : List UInt8)
  | settle (established : Nat)
  | raise
  | lower
  | exit
  | crash (message : String) (tidy : Bool)
  deriving DecidableEq, Repr

namespace Task

def isOver (t : Task) : Bool :=
  match t.stage with
  | .exited => true
  | .crashed _ => true
  | _ => false

/-- Cancellation has come and can still be noticed. -/
def interrupted (t : Task) : Bool := t.cancelled && !t.shuttingDown

def shutDown (t : Task) : Task :=
  { t with stage := .ready, todo := t.script.shutdown, shuttingDown := true }

def cancel (t : Task) : Task := { t with cancelled := true }

/-- A request to terminate wakes the task, or is kept until it waits for one. -/
def terminate (t : Task) : Task :=
  if t.script.guarded && !t.tunnelUp then t
  else
    match t.stage with
    | .parked => { t with stage := .woken }
    | _ => { t with permit := true }

def perform (now : Nat) (heed : Bool) (t : Task) (rest : List Act) : Act → Task × Effect
  | .sleep ms =>
    if t.interrupted && heed then (t.shutDown, .none)
    else if ms = 0 then ({ t with todo := rest }, .none)
    else ({ t with stage := .sleeping (now + ms), todo := rest }, .none)
  | .awaitTermination =>
    if t.interrupted && heed then (t.shutDown, .none)
    else if t.permit then ({ t with todo := rest, permit := false }, .none)
    else ({ t with stage := .parked, todo := rest }, .none)
  | .emit notice => ({ t with todo := rest }, .deliver notice)
  | .crash message =>
    ({ t with stage := .crashed message, todo := rest, tunnelUp := false },
      .crash message t.script.tidy)
  | .raise => ({ t with todo := rest, tunnelUp := true }, .raise)
  | .lower => ({ t with todo := rest, tunnelUp := false }, .lower)
  | .abandon => ({ t with todo := rest, tunnelUp := false }, .none)

/-- The end of a part: the run part starts again or waits for cancellation, the
shutdown part ends the task. -/
def endPart (t : Task) : Task × Effect :=
  if t.shuttingDown then ({ t with stage := .exited }, .exit)
  else if t.script.repeats then ({ t with todo := t.script.run }, .none)
  else ({ t with stage := .finished }, .none)

/-- One step at time `now`, or none while the task waits. -/
def step (now : Nat) (heed : Bool) (t : Task) : Option (Task × Effect) :=
  match t.stage with
  | .spawned => some ({ t with stage := .ready, todo := t.script.run }, .begin)
  | .ready =>
    match t.todo with
    | [] => some t.endPart
    | act :: rest => some (t.perform now heed rest act)
  | .sleeping due =>
    if t.interrupted && (heed || decide (now < due)) then some (t.shutDown, .none)
    else if due ≤ now then some ({ t with stage := .ready }, .none)
    else none
  | .parked => if t.interrupted then some (t.shutDown, .none) else none
  | .woken =>
    if t.interrupted && heed then some ({ t.shutDown with permit := true }, .none)
    else some ({ t with stage := .ready }, .none)
  | .settling due established =>
    if due ≤ now then some ({ t with stage := .ready }, .settle established) else none
  | .finished => if t.cancelled then some (t.shutDown, .none) else none
  | .exited => none
  | .crashed _ => none

def due? (t : Task) : Option Nat :=
  match t.stage with
  | .sleeping due => some due
  | .settling due _ => some due
  | _ => none

end Task

end TunnelSoak.Controller
