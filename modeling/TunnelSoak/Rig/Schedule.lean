import TunnelSoak.Rig.Lifecycle

/-! Letting a rig run by itself: controllers act until all of them wait, and only
then does the clock go on to the next thing that is due. The `fuel` bounds the
steps, since a script may act for ever without time passing; none means that it ran
out, or that a stop waits for a controller that waits for ever. -/
namespace TunnelSoak.Rig

open Controller (Task Plan)

def stepAny (coin : Nat → Bool) (rig : Rig) : Option Rig :=
  rig.tasks.findSome? fun t => rig.stepTask coin t.id true

def nextDue (rig : Rig) : Option Nat := (rig.tasks.filterMap Task.due?).min?

def runTasks (coin : Nat → Bool) : (fuel : Nat) → Rig → Option Rig
  | 0, _ => none
  | fuel + 1, rig =>
    match rig.stepAny coin with
    | some next => runTasks coin fuel next
    | none => some rig

def runUntil (coin : Nat → Bool) (time : Nat) : (fuel : Nat) → Rig → Option Rig
  | 0, _ => none
  | fuel + 1, rig =>
    match rig.stepAny coin with
    | some next => runUntil coin time fuel next
    | none =>
      match rig.nextDue with
      | some due =>
        if due ≤ time then runUntil coin time fuel { rig with now := max rig.now due }
        else some { rig with now := time }
      | none => some { rig with now := time }

def runJoin (coin : Nat → Bool) (id : Nat) : (fuel : Nat) → Rig →
    Option (Except Failure Unit × Rig)
  | 0, _ => none
  | fuel + 1, rig =>
    match rig.join id with
    | some done => some done
    | none =>
      match rig.stepAny coin with
      | some next => runJoin coin id fuel next
      | none =>
        match rig.nextDue with
        | some due => runJoin coin id fuel { rig with now := max rig.now due }
        | none => none

inductive Operation where
  | start
  | stop
  | restart
  | terminate (times : Nat)
  | advance (ms : Nat)
  | take (request : Request)
  deriving DecidableEq, Repr

inductive Outcome where
  | result (result : Except Failure Unit)
  | heard (answers : List Bool)
  | taken (full : Bool)
  | elapsed

def stop (coin : Nat → Bool) (fuel : Nat) (rig : Rig) : Option (Except Failure Unit × Rig) :=
  match rig.cancel with
  | (none, rig) => some (.ok (), rig)
  | (some id, rig) => rig.runJoin coin id fuel

def restart (coin : Nat → Bool) (plan : Plan) (fuel : Nat) (rig : Rig) :
    Option (Except Failure Unit × Rig) :=
  (rig.stop coin fuel).map fun (result, rig) =>
    match result with
    | .error failure => (.error failure, rig)
    | .ok () => rig.start plan

def terminateTimes : Nat → Rig → List Bool × Rig
  | 0, rig => ([], rig)
  | n + 1, rig =>
    let (heard, rig) := rig.terminate
    let (rest, rig) := terminateTimes n rig
    (heard :: rest, rig)

def operate (coin : Nat → Bool) (plan : Plan) (fuel : Nat) (rig : Rig) :
    Operation → Option (Outcome × Rig)
  | .start =>
    let (result, rig) := rig.start plan
    some (.result result, rig)
  | .stop => (rig.stop coin fuel).map fun (result, rig) => (.result result, rig)
  | .restart => (rig.restart coin plan fuel).map fun (result, rig) => (.result result, rig)
  | .terminate times =>
    let (answers, rig) := terminateTimes times rig
    some (.heard answers, rig)
  | .advance ms => (rig.runUntil coin (rig.now + ms) fuel).map fun rig => (.elapsed, rig)
  | .take request =>
    let (full, rig) := rig.take request
    some (.taken full, rig)

/-- An operation, after which every controller acts until it waits. -/
def operateAndRun (coin : Nat → Bool) (plan : Plan) (fuel : Nat) (rig : Rig)
    (operation : Operation) : Option (Outcome × Rig) := do
  let (outcome, rig) ← rig.operate coin plan fuel operation
  let rig ← rig.runTasks coin fuel
  some (outcome, rig)

end TunnelSoak.Rig
