import TunnelSoak.Rig.Lifecycle

/-! The operations of a run loop on a rig that has a single controller or none. -/
namespace TunnelSoak.Rig

open Controller (Task Plan)

variable {rig : Rig} {t : Task}

section record
variable (event : Event)

@[simp] theorem record_now : (rig.record event).now = rig.now := rfl

@[simp] theorem record_dispatcher : (rig.record event).dispatcher = rig.dispatcher := rfl

@[simp] theorem record_lifecycle : (rig.record event).lifecycle = rig.lifecycle := rfl

@[simp] theorem record_counters : (rig.record event).counters = rig.counters := rfl

@[simp] theorem record_tasks : (rig.record event).tasks = rig.tasks := rfl

@[simp] theorem record_trace : (rig.record event).trace = ⟨rig.now, event⟩ :: rig.trace := rfl

end record

@[simp] theorem updateIn_sole (change : Task → Task) :
    updateIn t.id change [t] = [change t] := by
  simp [updateIn]

/-- The only controller is told to stop and is given out of hand. -/
def released (rig : Rig) (t : Task) : Rig :=
  { rig with
    tasks := [t.cancel]
    lifecycle.phase := .stopping
    lifecycle.handle := none }

theorem cancel_sole (sole : rig.tasks = [t]) (held : rig.lifecycle.handle = some t.id) :
    rig.cancel = (some t.id, rig.released t) := by
  simp [cancel, released, held, update, sole]

theorem cancel_unheld (unheld : rig.lifecycle.handle = none) : rig.cancel = (none, rig) := by
  simp [cancel, unheld]

/-- The only controller is over and gone. -/
def vacated (rig : Rig) (event : Event) : Rig :=
  { rig with tasks := [], lifecycle.phase := .stopped }.record event

inductive Joined (rig : Rig) (t : Task) : Except Failure Unit → Rig → Prop
  | exited (stage : t.stage = .exited) :
    Joined rig t (.ok ()) (rig.vacated (.controllerStopped t.id))
  | crashed {message : String} (stage : t.stage = .crashed message) :
    Joined rig t (.error (.task (crashReason t.id message)))
      (rig.vacated (.controllerFailed t.id (crashReason t.id message)))

theorem join_sole (sole : rig.tasks = [t]) {id : Nat} {stopped : Except Failure Unit} {next : Rig}
    (h : rig.join id = some (stopped, next)) : id = t.id ∧ Joined rig t stopped next := by
  unfold join task? at h
  by_cases own : t.id = id
  · subst own
    refine ⟨rfl, ?_⟩
    simp only [sole, List.find?_cons_of_pos, decide_true, Option.bind_eq_bind,
      Option.bind_some] at h
    split at h
    · rename_i stage
      cases h
      simpa [vacated, record, setPhase] using (Joined.exited stage : Joined rig t _ _)
    · rename_i message stage
      cases h
      simpa [vacated, record, setPhase] using (Joined.crashed stage : Joined rig t _ _)
    · cases h
  · simp [sole, own] at h

theorem exists_join (sole : rig.tasks = [t]) (ended : t.isOver = true) :
    ∃ stopped next, rig.join t.id = some (stopped, next) := by
  unfold join task?
  simp only [sole, List.find?_cons_of_pos, decide_true, Option.bind_eq_bind, Option.bind_some]
  cases stage : t.stage with
  | exited => exact ⟨_, _, rfl⟩
  | crashed message => exact ⟨_, _, rfl⟩
  | _ => simp [Task.isOver, stage] at ended

def refused (rig : Rig) (failure : Failure) : Rig :=
  { rig with
    lifecycle.phase := .stopped
    counters.attempts := rig.counters.attempts + 1 }.record
      (.constructionFailed (rig.counters.attempts + 1) failure)

theorem start_refused {plan : Plan} {failure : Failure} (unheld : rig.lifecycle.handle = none)
    (refusal : plan.refusal (rig.counters.attempts + 1) = some failure) :
    rig.start plan = (.error failure, rig.refused failure) := by
  simp [start, unheld, refusal, refused, setPhase, record]

def recruit (rig : Rig) (plan : Plan) : Task where
  id := rig.counters.constructed + 1
  script := plan.script rig.counters.constructed

def staffed (rig : Rig) (plan : Plan) : Rig :=
  { rig with
    lifecycle := ⟨.running, some (rig.recruit plan).id, rig.lifecycle.starts + 1⟩
    counters.attempts := rig.counters.attempts + 1
    counters.constructed := rig.counters.constructed + 1
    tasks := rig.recruit plan :: rig.tasks }.record
      (.controllerStarted (rig.recruit plan).id (rig.lifecycle.starts + 1))

theorem start_built {plan : Plan} (unheld : rig.lifecycle.handle = none)
    (built : plan.refusal (rig.counters.attempts + 1) = none) :
    rig.start plan = (.ok (), rig.staffed plan) := by
  simp [start, unheld, built, staffed, recruit, setPhase, record]

def prodded (rig : Rig) (t : Task) : Rig :=
  { rig with
    tasks := [t.terminate]
    counters.terminateCalls := rig.counters.terminateCalls + 1 }.record (.terminateSent t.id)

theorem terminate_sole (sole : rig.tasks = [t]) (held : rig.lifecycle.handle = some t.id) :
    rig.terminate = (true, rig.prodded t) := by
  simp [terminate, held, prodded, update, sole, record]

def taken (rig : Rig) (request : Request) : Rig :=
  { rig with dispatcher := (rig.dispatcher.take request).2 }.record (.requestTaken request)

end TunnelSoak.Rig
