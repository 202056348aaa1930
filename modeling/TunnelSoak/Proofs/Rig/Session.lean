import TunnelSoak.Proofs.Rig.Roster
import TunnelSoak.Proofs.Soak.Supervision
import TunnelSoak.Rig.Schedule

/-! The lifecycle through any session: operations in any order, between them and while a
stop waits whatever the controllers do. Phase, handle and count of starts are kept apart
and change one by one, yet at the end of every operation they agree with each other and
with the controllers that there are. -/
namespace TunnelSoak.Rig

open Controller (Task Plan)
open History

variable {coin : Nat → Bool} {plan : Plan} {rig next : Rig} {t : Task}

/-- What happens by itself: controllers act, heeding whatever they like, and the clock goes on. -/
inductive Passage (coin : Nat → Bool) (rig : Rig) : Rig → Prop
  | still : Passage coin rig rig
  | act {mid next : Rig} {id : Nat} {heed : Bool} (passage : Passage coin rig mid)
    (stepped : mid.stepTask coin id heed = some next) : Passage coin rig next
  | elapse {mid : Rig} (passage : Passage coin rig mid) (time : Nat) :
    Passage coin rig { mid with now := time }

inductive Stops (coin : Nat → Bool) (rig : Rig) : Except Failure Unit → Rig → Prop
  | idle {next : Rig} (begun : rig.cancel = (none, next)) : Stops coin rig (.ok ()) next
  | joined {begun later next : Rig} {id : Nat} {result : Except Failure Unit}
    (begins : rig.cancel = (some id, begun)) (passage : Passage coin begun later)
    (ends : later.join id = some (result, next)) : Stops coin rig result next

inductive Operates (coin : Nat → Bool) (plan : Plan) (rig : Rig) :
    Operation → Outcome → Rig → Prop
  | start : Operates coin plan rig .start (.result (rig.start plan).1) (rig.start plan).2
  | stop {result : Except Failure Unit} {next : Rig} (stops : Stops coin rig result next) :
    Operates coin plan rig .stop (.result result) next
  | halted {failure : Failure} {next : Rig} (stops : Stops coin rig (.error failure) next) :
    Operates coin plan rig .restart (.result (.error failure)) next
  | replaced {mid : Rig} (stops : Stops coin rig (.ok ()) mid) :
    Operates coin plan rig .restart (.result (mid.start plan).1) (mid.start plan).2
  | terminate (times : Nat) :
    Operates coin plan rig (.terminate times) (.heard (terminateTimes times rig).1)
      (terminateTimes times rig).2
  | advance {next : Rig} (ms : Nat) (passage : Passage coin rig next) :
    Operates coin plan rig (.advance ms) .elapsed next
  | take (request : Request) :
    Operates coin plan rig (.take request) (.taken (rig.take request).1) (rig.take request).2

/-- The rigs that operations can make of a new one. -/
inductive Session (coin : Nat → Bool) (plan : Plan) : Rig → Prop
  | new (dispatcher : Dispatcher) : Session coin plan { dispatcher }
  | operate {rig next : Rig} {operation : Operation} {outcome : Outcome}
    (session : Session coin plan rig) (operates : Operates coin plan rig operation outcome next) :
    Session coin plan next

section schedule
variable {start : Rig}

theorem stepAny_sole (sole : rig.tasks = [t]) :
    rig.stepAny coin = rig.stepTask coin t.id true := by
  unfold stepAny
  rw [sole]
  cases stepped : rig.stepTask coin t.id true <;> simp [stepped]

theorem step_of_waits (sole : rig.tasks = [t]) (waits : rig.stepAny coin = none) :
    t.step rig.now true = none := by
  rw [stepAny_sole sole] at waits
  cases ran : t.step rig.now true with
  | none => rfl
  | some pair =>
    have stepped := (stepTask_sole coin sole t.id true).mpr ⟨rfl, pair.1, pair.2, ran, rfl⟩
    rw [waits] at stepped
    cases stepped

theorem Passage.any (passage : Passage coin start rig) (stepped : rig.stepAny coin = some next) :
    Passage coin start next := by
  obtain ⟨t, -, stepped⟩ := List.exists_of_findSome?_eq_some stepped
  exact passage.act stepped

theorem Passage.runTasks {fuel : Nat} (passage : Passage coin start rig)
    (ran : runTasks coin fuel rig = some next) :
    Passage coin start next ∧ next.stepAny coin = none := by
  induction fuel generalizing rig with
  | zero => cases ran
  | succ fuel ih =>
    unfold Rig.runTasks at ran
    split at ran
    · rename_i stepped
      exact ih (passage.any stepped) ran
    · rename_i waits
      cases ran
      exact ⟨passage, waits⟩

theorem Passage.runUntil {time fuel : Nat} (passage : Passage coin start rig)
    (ran : runUntil coin time fuel rig = some next) : Passage coin start next := by
  induction fuel generalizing rig with
  | zero => cases ran
  | succ fuel ih =>
    unfold Rig.runUntil at ran
    split at ran
    · rename_i stepped
      exact ih (passage.any stepped) ran
    · split at ran
      · split at ran
        · exact ih (passage.elapse _) ran
        · cases ran
          exact passage.elapse time
      · cases ran
        exact passage.elapse time

theorem Passage.runJoin {id fuel : Nat} {result : Except Failure Unit}
    (passage : Passage coin start rig) (ran : runJoin coin id fuel rig = some (result, next)) :
    ∃ later, Passage coin start later ∧ later.join id = some (result, next) := by
  induction fuel generalizing rig with
  | zero => cases ran
  | succ fuel ih =>
    unfold Rig.runJoin at ran
    split at ran
    · rename_i ended
      cases ran
      exact ⟨rig, passage, ended⟩
    · split at ran
      · rename_i stepped
        exact ih (passage.any stepped) ran
      · split at ran
        · exact ih (passage.elapse _) ran
        · cases ran

theorem stops_of_stop {fuel : Nat} {result : Except Failure Unit}
    (ran : rig.stop coin fuel = some (result, next)) : Stops coin rig result next := by
  unfold Rig.stop at ran
  split at ran
  · rename_i begun
    cases ran
    exact .idle begun
  · rename_i begins
    obtain ⟨later, passage, ends⟩ := Passage.still.runJoin ran
    exact .joined begins passage ends

theorem operates_of_operate {fuel : Nat} {operation : Operation} {outcome : Outcome}
    (ran : rig.operate coin plan fuel operation = some (outcome, next)) :
    Operates coin plan rig operation outcome next := by
  cases operation with
  | start =>
    cases ran
    exact .start
  | stop =>
    obtain ⟨⟨result, later⟩, stopped, same⟩ := Option.map_eq_some_iff.mp ran
    cases same
    exact .stop (stops_of_stop stopped)
  | restart =>
    obtain ⟨⟨result, later⟩, restarted, same⟩ := Option.map_eq_some_iff.mp ran
    cases same
    obtain ⟨⟨stopped, mid⟩, ended, same⟩ := Option.map_eq_some_iff.mp restarted
    have stops := stops_of_stop ended
    cases stopped with
    | error failure =>
      cases same
      exact .halted stops
    | ok =>
      have started : mid.start plan = (result, next) := same
      have replaced : Operates coin plan rig .restart (.result (mid.start plan).1)
          (mid.start plan).2 := .replaced stops
      rw [started] at replaced
      exact replaced
  | terminate times =>
    cases ran
    exact .terminate times
  | advance ms =>
    obtain ⟨later, advanced, same⟩ := Option.map_eq_some_iff.mp ran
    cases same
    exact .advance ms (Passage.still.runUntil advanced)
  | take request =>
    cases ran
    exact .take request

end schedule

def operateAll (coin : Nat → Bool) (plan : Plan) (fuel : Nat) (rig : Rig) :
    List Operation → Option Rig
  | [] => some rig
  | operation :: operations =>
    (rig.operate coin plan fuel operation).bind fun (_, next) =>
      operateAll coin plan fuel next operations

theorem Session.operateAll {fuel : Nat} {operations : List Operation}
    (session : Session coin plan rig)
    (ran : operateAll coin plan fuel rig operations = some next) : Session coin plan next := by
  induction operations generalizing rig with
  | nil =>
    cases ran
    exact session
  | cons operation operations ih =>
    obtain ⟨⟨outcome, mid⟩, operated, rest⟩ := Option.bind_eq_some_iff.mp ran
    exact ih (session.operate (operates_of_operate operated)) rest

theorem Attended.elapse (attended : rig.Attended) (time : Nat) :
    ({ rig with now := time } : Rig).Attended :=
  attended.carry [] rfl (List.forall_mem_nil _) rfl rfl ⟨rfl, rfl, rfl⟩

/-- Between operations a controller runs and is held, or there is none. -/
inductive Managed (rig : Rig) : Prop
  | stopped (phase : rig.lifecycle.phase = .stopped) (unheld : rig.lifecycle.handle = none)
    (vacant : rig.tasks = [])
  | running {t : Task} (phase : rig.lifecycle.phase = .running)
    (held : rig.lifecycle.handle = some t.id) (sole : rig.tasks = [t])

structure Kept (rig : Rig) : Prop where
  managed : rig.Managed
  attended : rig.Attended
  roster : rig.Roster

/-- The same controller is there as before, or one that has gone on from it. -/
structure Tended (rig later : Rig) (t : Task) : Prop where
  task : ∃ after, later.tasks = [after] ∧ after.id = t.id
  lifecycle : later.lifecycle = rig.lifecycle
  attempts : later.counters.attempts = rig.counters.attempts
  attended : later.Attended
  roster : later.Roster

theorem Passage.tended {later : Rig} (passage : Passage coin rig later) (sole : rig.tasks = [t])
    (attended : rig.Attended) (roster : rig.Roster) : Tended rig later t := by
  induction passage with
  | still => exact ⟨⟨t, sole, rfl⟩, rfl, rfl, attended, roster⟩
  | act passage stepped ih =>
    obtain ⟨⟨mid, tasks, id⟩, lifecycle, attempts, attended, roster⟩ := ih
    obtain ⟨working, after, acted⟩ := acted coin tasks stepped
    exact
      { task := ⟨after, acted.tasks, acted.kept.id.trans id⟩
        lifecycle := acted.lifecycle.trans lifecycle
        attempts := acted.attempts.trans attempts
        attended := attended.acted tasks working acted
        roster := roster.act tasks stepped }
  | elapse passage time ih =>
    obtain ⟨task, lifecycle, attempts, attended, roster⟩ := ih
    exact ⟨task, lifecycle, attempts, attended.elapse time, roster.elapse time⟩

theorem Passage.vacant {later : Rig} (passage : Passage coin rig later) (vacant : rig.tasks = []) :
    ∃ time, later = { rig with now := time } := by
  induction passage with
  | still => exact ⟨rig.now, rfl⟩
  | act passage stepped ih =>
    obtain ⟨time, rfl⟩ := ih
    simp [stepTask, task?, vacant] at stepped
  | elapse passage time ih =>
    obtain ⟨-, rfl⟩ := ih
    exact ⟨time, rfl⟩

theorem start_held (held : rig.lifecycle.handle.isSome = true) :
    rig.start plan = (.error .alreadyRunning, rig) := if_pos held

structure Stopped (rig next : Rig) (id : Nat) (result : Except Failure Unit) : Prop where
  lifecycle : next.lifecycle = ⟨.stopped, none, rig.lifecycle.starts⟩
  attempts : next.counters.attempts = rig.counters.attempts
  vacant : next.tasks = []
  finished : id ∉ unfinished next.trace
  panicked : (∃ reason, result = .error (.task reason)) ↔ id ∈ crashes next.trace
  sound : result = .ok () ↔ id ∉ crashes next.trace

theorem Stops.idle_eq {result : Except Failure Unit} (stops : Stops coin rig result next)
    (unheld : rig.lifecycle.handle = none) : result = .ok () ∧ next = rig := by
  have idle := cancel_unheld unheld
  cases stops with
  | idle begun =>
    rw [idle] at begun
    cases begun
    exact ⟨rfl, rfl⟩
  | joined begins =>
    rw [idle] at begins
    cases begins

theorem Joined.stopped {result : Except Failure Unit} (joined : Joined rig t result next)
    (sole : rig.tasks = [t]) (unheld : rig.lifecycle.handle = none) (attended : rig.Attended)
    (roster : rig.Roster) : Stopped rig next t.id result ∧ next.Kept := by
  have attends := attended.joined sole joined
  have rostered := roster.joined joined
  have last := roster.crashed t (sole ▸ List.mem_singleton_self t)
  have finished : next.tasks = [] → t.id ∉ unfinished next.trace := by
    intro vacant
    rw [attends.unfinished, vacant]
    exact List.not_mem_nil
  cases joined with
  | exited stage =>
    have sound : t.id ∉ crashes rig.trace := by
      rw [last, Task.hasCrashed, stage]
      decide
    refine ⟨⟨?_, rfl, rfl, finished rfl, ⟨?_, ?_⟩, ⟨fun _ => sound, fun _ => rfl⟩⟩,
      ⟨.stopped rfl unheld rfl, attends, rostered⟩⟩
    · exact congrArg (Lifecycle.mk .stopped · _) unheld
    · rintro ⟨reason, other⟩
      cases other
    · exact fun panicked => absurd panicked sound
  | crashed stage =>
    have panicked : t.id ∈ crashes rig.trace := by
      rw [last, Task.hasCrashed, stage]
    refine ⟨⟨?_, rfl, rfl, finished rfl, ⟨fun _ => panicked, fun _ => ⟨_, rfl⟩⟩, ⟨?_, ?_⟩⟩,
      ⟨.stopped rfl unheld rfl, attends, rostered⟩⟩
    · exact congrArg (Lifecycle.mk .stopped · _) unheld
    · intro passed
      cases passed
    · exact fun sound => absurd panicked sound

theorem Stops.stopped {result : Except Failure Unit} (stops : Stops coin rig result next)
    (kept : rig.Kept) (sole : rig.tasks = [t]) (held : rig.lifecycle.handle = some t.id) :
    Stopped rig next t.id result ∧ next.Kept := by
  have released := cancel_sole sole held
  cases stops with
  | idle begun =>
    rw [released] at begun
    cases begun
  | joined begins passage ends =>
    rw [released] at begins
    cases begins
    have attended : (rig.released t).Attended :=
      kept.attended.carry_sole [] sole rfl (List.forall_mem_nil _) rfl rfl rfl rfl ⟨rfl, rfl, rfl⟩
    -- the handle is gone by now, so the records are followed by the controller's number
    obtain ⟨⟨after, tasks, id⟩, lifecycle, attempts, attended, roster⟩ :=
      passage.tended rfl attended (kept.roster.released sole)
    obtain ⟨-, joined⟩ := join_sole tasks ends
    have unheld := congrArg Lifecycle.handle lifecycle
    obtain ⟨ended, kept⟩ := joined.stopped tasks unheld attended roster
    rw [id] at ended
    refine ⟨{ ended with lifecycle := ?_, attempts := ended.attempts.trans attempts }, kept⟩
    rw [ended.lifecycle, lifecycle]
    rfl

theorem Kept.start (kept : rig.Kept) : (rig.start plan).2.Kept := by
  cases kept.managed with
  | running phase held =>
    rw [start_held (by rw [held]; rfl)]
    exact kept
  | stopped phase unheld vacant =>
    cases refusal : plan.refusal (rig.counters.attempts + 1) with
    | some failure =>
      rw [start_refused unheld refusal]
      exact ⟨.stopped rfl unheld vacant, kept.attended.refused vacant, kept.roster.refused failure⟩
    | none =>
      rw [start_built unheld refusal]
      refine ⟨.running rfl rfl ?_, kept.attended.staffed vacant, kept.roster.staffed plan vacant⟩
      exact congrArg (rig.recruit plan :: ·) vacant

theorem Stops.kept {result : Except Failure Unit} (stops : Stops coin rig result next)
    (kept : rig.Kept) : next.Kept := by
  cases kept.managed with
  | stopped phase unheld =>
    obtain ⟨-, rfl⟩ := stops.idle_eq unheld
    exact kept
  | running phase held sole => exact (stops.stopped kept sole held).2

theorem Kept.terminate (kept : rig.Kept) : rig.terminate.2.Kept := by
  cases kept.managed with
  | stopped phase unheld =>
    unfold Rig.terminate
    rw [unheld]
    exact kept
  | @running t phase held sole =>
    rw [terminate_sole sole held]
    refine ⟨.running phase ?_ rfl, ?_, kept.roster.prodded sole⟩
    · rw [t.terminate_id]
      exact held
    · exact kept.attended.carry_sole [_] sole rfl (by simp [Event.isRoutine]) rfl t.terminate_id
        t.terminate_isOver t.terminate_isLive ⟨rfl, rfl, rfl⟩

theorem Kept.terminateTimes (kept : rig.Kept) (times : Nat) :
    (terminateTimes times rig).2.Kept := by
  induction times generalizing rig with
  | zero => exact kept
  | succ times ih => exact ih kept.terminate

theorem Passage.kept (passage : Passage coin rig next) (kept : rig.Kept) : next.Kept := by
  cases kept.managed with
  | stopped phase unheld vacant =>
    obtain ⟨time, rfl⟩ := passage.vacant vacant
    exact ⟨.stopped phase unheld vacant, kept.attended.elapse time, kept.roster.elapse time⟩
  | running phase held sole =>
    obtain ⟨⟨after, tasks, id⟩, lifecycle, -, attended, roster⟩ :=
      passage.tended sole kept.attended kept.roster
    refine ⟨.running ?_ ?_ tasks, attended, roster⟩
    · rw [lifecycle]
      exact phase
    · rw [lifecycle, id]
      exact held

theorem Operates.kept {operation : Operation} {outcome : Outcome}
    (operates : Operates coin plan rig operation outcome next) (kept : rig.Kept) : next.Kept := by
  cases operates with
  | start => exact kept.start
  | stop stops => exact stops.kept kept
  | halted stops => exact stops.kept kept
  | replaced stops => exact (stops.kept kept).start
  | terminate times => exact kept.terminateTimes times
  | advance ms passage => exact passage.kept kept
  | take request =>
    obtain ⟨managed, attended, roster⟩ := kept
    refine ⟨?_, attended.carry [] rfl (List.forall_mem_nil _) rfl rfl ⟨rfl, rfl, rfl⟩,
      roster.carry [] rfl (List.forall_mem_nil _) rfl rfl fun t mem => ⟨t, mem, rfl, rfl⟩⟩
    cases managed with
    | stopped phase unheld vacant => exact .stopped phase unheld vacant
    | running phase held sole => exact .running phase held sole

theorem Session.kept (session : Session coin plan rig) : rig.Kept := by
  induction session with
  | new dispatcher =>
    exact ⟨.stopped rfl rfl rfl, ⟨rfl, rfl, Nat.zero_le _, trivial, rfl⟩, .new dispatcher⟩
  | operate session operates ih => exact operates.kept ih

/-- What can be relied on between any two operations. -/
structure Regular (coin : Nat → Bool) (plan : Plan) (rig : Rig) : Prop where
  state : rig.lifecycle.phase = .running ∧ rig.lifecycle.handle.isSome = true ∨
    rig.lifecycle.phase = .stopped ∧ rig.lifecycle.handle.isSome = false
  starts : rig.lifecycle.starts = rig.counters.constructed ∧
    rig.lifecycle.starts = (started rig.trace).length
  start_running : rig.lifecycle.handle.isSome = true →
    rig.start plan = (.error .alreadyRunning, rig)
  start_refused : rig.lifecycle.handle = none → ∀ failure,
    plan.refusal (rig.counters.attempts + 1) = some failure →
      (rig.start plan).1 = .error failure ∧
        (rig.start plan).2.lifecycle = ⟨.stopped, none, rig.lifecycle.starts⟩
  start_built : rig.lifecycle.handle = none → plan.refusal (rig.counters.attempts + 1) = none →
    (rig.start plan).1 = .ok () ∧ (rig.start plan).2.lifecycle =
      ⟨.running, some (rig.counters.constructed + 1), rig.lifecycle.starts + 1⟩
  stop_idle : rig.lifecycle.handle = none → ∀ result next, Stops coin rig result next →
    result = .ok () ∧ next = rig
  stop_running : ∀ id, rig.lifecycle.handle = some id → ∀ result next,
    Stops coin rig result next → Stopped rig next id result
  /-- A restart goes to the factory if and only if its stop succeeded. -/
  restart : ∀ outcome next, Operates coin plan rig .restart outcome next →
    ∃ stopped mid, Stops coin rig stopped mid ∧
      (stopped = .ok () ∧ outcome = .result (mid.start plan).1 ∧ next = (mid.start plan).2 ∧
          constructions next.trace = constructions rig.trace + 1 ∨
        (∃ failure, stopped = .error failure ∧ outcome = .result (.error failure)) ∧ next = mid ∧
          constructions next.trace = constructions rig.trace)
  terminate : rig.terminate.1 = rig.lifecycle.handle.isSome
  unforwarded : rig.lifecycle.handle = none → rig.terminate.2 = rig
  forwarded : ∀ id, rig.lifecycle.handle = some id →
    (started rig.trace).head? = some id ∧ rig.terminate.2.tasks = rig.tasks.map Task.terminate ∧
      rig.terminate.2.trace = ⟨rig.now, .terminateSent id⟩ :: rig.trace
  /-- The operations as they are carried out are operations in this sense. -/
  executed : ∀ fuel operation outcome next,
    rig.operate coin plan fuel operation = some (outcome, next) →
      Operates coin plan rig operation outcome next

theorem start_attempts (unheld : rig.lifecycle.handle = none) :
    (rig.start plan).2.counters.attempts = rig.counters.attempts + 1 := by
  cases refusal : plan.refusal (rig.counters.attempts + 1) with
  | some failure =>
    rw [start_refused unheld refusal]
    rfl
  | none =>
    rw [start_built unheld refusal]
    rfl

theorem Stops.settles {result : Except Failure Unit} (stops : Stops coin rig result next)
    (kept : rig.Kept) :
    next.lifecycle.handle = none ∧ next.counters.attempts = rig.counters.attempts := by
  cases kept.managed with
  | stopped phase unheld =>
    obtain ⟨-, rfl⟩ := stops.idle_eq unheld
    exact ⟨unheld, rfl⟩
  | running phase held sole =>
    obtain ⟨stopped, -⟩ := stops.stopped kept sole held
    exact ⟨congrArg Lifecycle.handle stopped.lifecycle, stopped.attempts⟩

theorem lifecycle_in_order (session : Session coin plan rig) : Regular coin plan rig := by
  have kept := session.kept
  have starts := kept.roster.starts.trans kept.roster.constructed.symm
  have sole_of_held (id : Nat) (held : rig.lifecycle.handle = some id) :
      ∃ t, rig.tasks = [t] ∧ t.id = id := by
    cases kept.managed with
    | stopped phase unheld =>
      rw [unheld] at held
      cases held
    | running phase other sole =>
      rw [other] at held
      exact ⟨_, sole, Option.some.inj held⟩
  refine
    { state := ?_, starts := ⟨starts, kept.roster.starts⟩, start_running := start_held
      start_refused := ?_, start_built := ?_
      stop_idle := fun unheld result next stops => stops.idle_eq unheld
      stop_running := ?_, restart := ?_, terminate := ?_, unforwarded := ?_, forwarded := ?_
      executed := fun fuel operation outcome next => operates_of_operate }
  · cases kept.managed with
    | stopped phase unheld => exact .inr ⟨phase, by rw [unheld]; rfl⟩
    | running phase held => exact .inl ⟨phase, by rw [held]; rfl⟩
  · intro unheld failure refusal
    rw [start_refused unheld refusal]
    exact ⟨rfl, congrArg (Lifecycle.mk .stopped · _) unheld⟩
  · intro unheld built
    rw [start_built unheld built]
    exact ⟨rfl, rfl⟩
  · intro id held result next stops
    obtain ⟨t, sole, rfl⟩ := sole_of_held id held
    exact (stops.stopped kept sole held).1
  · intro outcome next operates
    -- the factory's own count of attempts shows what the trace gained
    have attempts := (operates.kept kept).attended.attempts
    cases operates with
    | halted stops =>
      obtain ⟨-, same⟩ := stops.settles kept
      refine ⟨_, _, stops, .inr ⟨⟨_, rfl, rfl⟩, rfl, ?_⟩⟩
      rw [← attempts, same, kept.attended.attempts]
    | replaced stops =>
      obtain ⟨unheld, same⟩ := stops.settles kept
      refine ⟨_, _, stops, .inl ⟨rfl, rfl, rfl, ?_⟩⟩
      rw [← attempts, start_attempts unheld, same, kept.attended.attempts]
  · unfold Rig.terminate
    cases rig.lifecycle.handle <;> rfl
  · intro unheld
    unfold Rig.terminate
    rw [unheld]
  · intro id held
    obtain ⟨t, sole, rfl⟩ := sole_of_held id held
    rw [terminate_sole sole held, sole]
    exact ⟨kept.roster.latest t (sole ▸ List.mem_singleton_self t), rfl, rfl⟩

/-- The first controller panics by itself, and the second attempt at one is refused. -/
def fragile : Plan where
  refusal attempt := if attempt = 2 then some (.construction "no luck") else none
  script _ := { run := [.crash "boom"] }

theorem fragile_session_in_order : ∃ rig : Rig, Session (fun _ => false) fragile rig ∧
    crashes rig.trace = [1] ∧ rig.lifecycle = ⟨.running, some 2, 2⟩ ∧ rig.counters.attempts = 3 ∧
    Regular (fun _ => false) fragile rig := by
  obtain ⟨rig, ran, crashed, lifecycle, attempts⟩ :
      ∃ rig, operateAll (fun _ => false) fragile 9
        { dispatcher := { mode := .reconnectTunnel, settleMs := 0 } }
        [.start, .start, .advance 5, .restart, .start, .restart, .terminate 1] = some rig ∧
      crashes rig.trace = [1] ∧ rig.lifecycle = ⟨.running, some 2, 2⟩ ∧ rig.counters.attempts = 3 :=
    ⟨_, rfl, rfl, rfl, rfl⟩
  have session := (Session.new _).operateAll ran
  exact ⟨rig, session, crashed, lifecycle, attempts, lifecycle_in_order session⟩

end TunnelSoak.Rig
