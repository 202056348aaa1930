import TunnelSoak.Rig
import TunnelSoak.Escaped

/-! Starting, stopping and terminating. A stop cancels the controller and waits for
it, and the wait may take any time, so it is two operations: `cancel` begins the
stop and `join` ends it once the controller is over. -/
namespace TunnelSoak.Rig

open Controller (Task Plan)

def setPhase (rig : Rig) (phase : Phase) : Rig := { rig with lifecycle.phase := phase }

def start (plan : Plan) (rig : Rig) : Except Failure Unit × Rig :=
  if rig.lifecycle.handle.isSome then (.error .alreadyRunning, rig)
  else
    let rig := rig.setPhase .starting
    let attempt := rig.counters.attempts + 1
    let rig := { rig with counters.attempts := attempt }
    match plan.refusal attempt with
    | some failure =>
      (.error failure, (rig.setPhase .stopped).record (.constructionFailed attempt failure))
    | none =>
      let script := plan.script rig.counters.constructed
      let id := rig.counters.constructed + 1
      let starts := rig.lifecycle.starts + 1
      let rig := { rig with
        counters.constructed := id
        lifecycle := ⟨.running, some id, starts⟩
        tasks := { id, script } :: rig.tasks }
      (.ok (), rig.record (.controllerStarted id starts))

/-- Begin to stop the controller that is running, if there is one. -/
def cancel (rig : Rig) : Option Nat × Rig :=
  match rig.lifecycle.handle with
  | none => (none, rig)
  | some id =>
    (some id, { rig.update id Task.cancel with
      lifecycle.phase := .stopping, lifecycle.handle := none })

def crashReason (id : Nat) (message : String) : String :=
  "task " ++ toString id ++ " panicked with message " ++ Escaped.quote message

/-- End a stop whose controller is over; none while it is not. -/
def join (rig : Rig) (id : Nat) : Option (Except Failure Unit × Rig) := do
  let t ← rig.task? id
  let stopped := { rig.setPhase .stopped with tasks := rig.tasks.filter fun t => t.id ≠ id }
  match t.stage with
  | .exited => some (.ok (), stopped.record (.controllerStopped id))
  | .crashed message =>
    let reason := crashReason id message
    some (.error (.task reason), stopped.record (.controllerFailed id reason))
  | _ => none

def terminate (rig : Rig) : Bool × Rig :=
  match rig.lifecycle.handle with
  | none => (false, rig)
  | some id =>
    let rig := { rig.update id Task.terminate with
      counters.terminateCalls := rig.counters.terminateCalls + 1 }
    (true, rig.record (.terminateSent id))

def take (rig : Rig) (request : Request) : Bool × Rig :=
  let (taken, dispatcher) := rig.dispatcher.take request
  (taken, { rig with dispatcher })

end TunnelSoak.Rig
