import TunnelSoak.Proofs.Rig.Deliveries
import TunnelSoak.Soak.Step

/-! Everything a run can do, said once. A run is supervised: the loop holds its only
controller while it selects, waits for it while it restarts or closes, and has none
once it is over. From a supervised state the moves of a run are the transitions
below, which lead to supervised states again, so they are all the moves there are. -/
namespace TunnelSoak

namespace Clock
variable (clock : Clock)

theorem half_le : Nat.pow 2 62 * 1000 ≤ clock.endMs := by
  have roomy := clock.roomy
  have far := clock.far_le
  have parts : Nat.pow 2 63 * 1000 = Nat.pow 2 62 * 1000 + 2 * (Nat.pow 2 61 * 1000) := rfl
  omega

theorem add?_eq_some_iff {clock : Clock} {time ms sum : Nat} :
    clock.add? time ms = some sum ↔ time + ms < clock.endMs ∧ time + ms = sum := by
  simp [add?]

theorem far_lt : clock.farMs < clock.endMs :=
  Nat.lt_of_le_of_lt clock.far_le (Nat.lt_of_lt_of_le (by decide) clock.half_le)

end Clock

namespace Soak

open Controller (Task Effect)

/-- Where the only controller is, stage by stage. -/
def Supervised (s : Soak) : Prop :=
  match s.stage with
  | .selecting => ∃ t, s.rig.tasks = [t] ∧ s.rig.lifecycle.handle = some t.id
  | .restarting id => ∃ t, s.rig.tasks = [t] ∧ s.rig.lifecycle.handle = none ∧ t.id = id
  | .closing id _ => ∃ t, s.rig.tasks = [t] ∧ s.rig.lifecycle.handle = none ∧ t.id = id
  | .over _ => s.rig.tasks = [] ∧ s.rig.lifecycle.handle = none
  | .panicked _ => ∃ t, s.rig.tasks = [t] ∧ s.rig.lifecycle.handle = some t.id

def bareRig (setup : Setup) : Rig where
  dispatcher := { mode := setup.config.mode, settleMs := setup.config.settleDelayMs }

def startedRig (setup : Setup) : Rig :=
  (bareRig setup).record (.runStarted setup.config.durationSecs
    setup.config.sampleIntervalSecs setup.config.maxSysMemory)

theorem deadlineMs_of_timely {setup : Setup} (timely : setup.durationMs < setup.clock.endMs) :
    setup.deadlineMs = setup.durationMs := if_neg (Nat.not_le_of_lt timely)

inductive Opening (setup : Setup) : Soak → Prop
  | invalid {failure : Failure} (rejected : setup.config.validate = .error failure) :
    Opening setup { rig := bareRig setup, stage := .over (.error failure) }
  | refused {failure : Failure} (valid : setup.config.validate = .ok ())
    (refusal : setup.plan.refusal 1 = some failure) :
    Opening setup
      { rig := (startedRig setup).refused failure
        stage := .over (.error failure) }
  | panicked (valid : setup.config.validate = .ok ()) (built : setup.plan.refusal 1 = none)
    (beyond : setup.clock.endMs ≤ setup.intervalMs) :
    Opening setup
      { rig := (startedRig setup).staffed setup.plan
        stage := .panicked Clock.overflow }
  | selecting (valid : setup.config.validate = .ok ()) (built : setup.plan.refusal 1 = none)
    (timely : setup.intervalMs < setup.clock.endMs) :
    Opening setup
      { rig := (startedRig setup).staffed setup.plan
        deadline := setup.deadlineMs
        nextTick := setup.intervalMs }

theorem begin_opening (setup : Setup) : Opening setup (begin setup) := by
  unfold begin
  dsimp only
  cases valid : setup.config.validate with
  | error failure => exact .invalid valid
  | ok _ =>
    dsimp only
    rw [← bareRig, ← startedRig]
    have unheld : (startedRig setup).lifecycle.handle = none := rfl
    cases refusal : setup.plan.refusal 1 with
    | some failure =>
      rw [Rig.start_refused unheld refusal]
      exact .refused valid refusal
    | none =>
      rw [Rig.start_built unheld refusal]
      simp only [Clock.add?, Nat.zero_add]
      by_cases beyond : setup.clock.endMs ≤ setup.intervalMs
      · simpa only [if_pos beyond] using Opening.panicked valid refusal beyond
      · simpa only [if_neg beyond] using Opening.selecting valid refusal (Nat.lt_of_not_le beyond)

/-- A sample was taken, and its checks are to come. The next one has been put off as far as
the clock goes. -/
def probed (setup : Setup) (s : Soak) : Soak :=
  { s with nextTick := (s.tickAfter? setup).getD s.nextTick }.measure (setup.readings s.samples)

def observed (setup : Setup) (s : Soak) : Rig :=
  (s.probed setup).rig.record (.sampled (s.samples + 1) s.rig.dispatcher.tracker.established
    (setup.readings s.samples))

def excess (setup : Setup) (s : Soak) : Failure :=
  .ceilingExceeded (setup.readings s.samples).system setup.config.maxSysMemory

def stall (s : Soak) : Failure :=
  .stalled s.detector.last s.rig.dispatcher.tracker.established

/-- The moves from a supervised state, each with what must hold for it. -/
inductive Transition (setup : Setup) (s : Soak) : Move → Soak → Prop
  | expire {t : Task} (stage : s.stage = .selecting) (sole : s.rig.tasks = [t])
    (held : s.rig.lifecycle.handle = some t.id) (due : s.deadline ≤ s.rig.now) :
    Transition setup s .deadline
      { s with
        rig := (s.rig.record .durationElapsed).released t
        stage := .closing t.id (.ok ()) }
  | exceed {t : Task} (stage : s.stage = .selecting) (sole : s.rig.tasks = [t])
    (held : s.rig.lifecycle.handle = some t.id) (due : s.nextTick ≤ s.rig.now)
    (room : s.tickAfter? setup ≠ none)
    (above : setup.config.maxSysMemory < (setup.readings s.samples).system) :
    Transition setup s .tick
      { s.probed setup with
        rig := (s.probed setup).rig.released t
        stage := .closing t.id (.error (s.excess setup)) }
  | stall {t : Task} (stage : s.stage = .selecting) (sole : s.rig.tasks = [t])
    (held : s.rig.lifecycle.handle = some t.id) (due : s.nextTick ≤ s.rig.now)
    (room : s.tickAfter? setup ≠ none)
    (within : (setup.readings s.samples).system ≤ setup.config.maxSysMemory)
    (stuck : s.rig.dispatcher.tracker.established ≤ s.detector.last) :
    Transition setup s .tick
      { s.probed setup with
        rig := (s.observed setup).released t
        stage := .closing t.id (.error s.stall) }
  | advance {t : Task} (stage : s.stage = .selecting) (sole : s.rig.tasks = [t])
    (held : s.rig.lifecycle.handle = some t.id) (due : s.nextTick ≤ s.rig.now)
    (room : s.tickAfter? setup ≠ none)
    (within : (setup.readings s.samples).system ≤ setup.config.maxSysMemory)
    (progress : s.detector.last < s.rig.dispatcher.tracker.established) :
    Transition setup s .tick
      { s.probed setup with
        rig := (s.observed setup).record
          (.progressAdvanced s.detector.last s.rig.dispatcher.tracker.established)
        detector := ⟨s.rig.dispatcher.tracker.established⟩ }
  | overrun {t : Task} (stage : s.stage = .selecting) (sole : s.rig.tasks = [t])
    (held : s.rig.lifecycle.handle = some t.id) (due : s.nextTick ≤ s.rig.now)
    (full : s.tickAfter? setup = none) :
    Transition setup s .tick { s with stage := .panicked Clock.overflow }
  | reconnect {t : Task} (stage : s.stage = .selecting) (sole : s.rig.tasks = [t])
    (held : s.rig.lifecycle.handle = some t.id) (full : s.rig.dispatcher.reconnect = true) :
    Transition setup s .reconnect
      { s with rig := (s.rig.taken .reconnect).prodded t, reconnects := s.reconnects + 1 }
  | replace {t : Task} (stage : s.stage = .selecting) (sole : s.rig.tasks = [t])
    (held : s.rig.lifecycle.handle = some t.id) (full : s.rig.dispatcher.restart = true) :
    Transition setup s .restart
      { s with rig := (s.rig.taken .restart).released t, stage := .restarting t.id }
  | renew {t : Task} (stage : s.stage = .restarting t.id) (sole : s.rig.tasks = [t])
    (unheld : s.rig.lifecycle.handle = none) (exited : t.stage = .exited)
    (built : setup.plan.refusal (s.rig.counters.attempts + 1) = none) :
    Transition setup s .join
      { s with
        rig := (s.rig.vacated (.controllerStopped t.id)).staffed setup.plan
        stage := .selecting
        restarts := s.restarts + 1 }
  | refuse {t : Task} {failure : Failure} (stage : s.stage = .restarting t.id)
    (sole : s.rig.tasks = [t]) (unheld : s.rig.lifecycle.handle = none)
    (exited : t.stage = .exited)
    (refusal : setup.plan.refusal (s.rig.counters.attempts + 1) = some failure) :
    Transition setup s .join
      ({ s with rig := (s.rig.vacated (.controllerStopped t.id)).refused failure }.fail failure)
  | collapse {t : Task} {message : String} (stage : s.stage = .restarting t.id)
    (sole : s.rig.tasks = [t]) (unheld : s.rig.lifecycle.handle = none)
    (crashed : t.stage = .crashed message) :
    Transition setup s .join
      ({ s with
          rig := s.rig.vacated (.controllerFailed t.id (Rig.crashReason t.id message)) }.fail
        (.task (Rig.crashReason t.id message)))
  | conclude {t : Task} {outcome stopped : Except Failure Unit} {rig : Rig}
    (stage : s.stage = .closing t.id outcome) (sole : s.rig.tasks = [t])
    (unheld : s.rig.lifecycle.handle = none) (joined : s.rig.Joined t stopped rig) :
    Transition setup s .join ({ s with rig }.conclude outcome stopped)
  | act {t after : Task} {rig : Rig} {heed : Bool} (sole : s.rig.tasks = [t])
    (stepped : s.rig.stepTask setup.coin t.id heed = some rig) (working : t.isOver = false)
    (acted : s.rig.Acted rig t after) :
    Transition setup s (.act t.id heed) { s with rig }
  | elapse {due : Nat} (idle : s.isIdle setup = true) (next : s.dues.min? = some due) :
    Transition setup s .elapse { s with rig.now := max s.rig.now due }

section close
variable {s : Soak} {t : Task}

theorem close_sole (outcome : Except Failure Unit) (sole : s.rig.tasks = [t])
    (held : s.rig.lifecycle.handle = some t.id) :
    s.close outcome = { s with rig := s.rig.released t, stage := .closing t.id outcome } := by
  simp only [close, Rig.cancel_sole sole held]

theorem close_unheld (outcome : Except Failure Unit) (unheld : s.rig.lifecycle.handle = none) :
    s.close outcome = s.conclude outcome (.ok ()) := by
  simp only [close, Rig.cancel_unheld unheld]

end close

theorem isSelecting_iff (s : Soak) : s.isSelecting = true ↔ s.stage = .selecting := by
  unfold isSelecting
  split <;> simp_all

theorem Supervised.of_selecting {s : Soak} {t : Task} (stage : s.stage = .selecting)
    (sole : s.rig.tasks = [t]) (held : s.rig.lifecycle.handle = some t.id) : s.Supervised := by
  unfold Supervised
  rw [stage]
  exact ⟨t, sole, held⟩

theorem Supervised.selecting {s : Soak} (sup : s.Supervised) (stage : s.stage = .selecting) :
    ∃ t, s.rig.tasks = [t] ∧ s.rig.lifecycle.handle = some t.id := by
  simpa only [Supervised, stage] using sup

theorem Supervised.restarting {s : Soak} (sup : s.Supervised) {id : Nat}
    (stage : s.stage = .restarting id) :
    ∃ t, s.rig.tasks = [t] ∧ s.rig.lifecycle.handle = none ∧ t.id = id := by
  simpa only [Supervised, stage] using sup

theorem Supervised.closing {s : Soak} (sup : s.Supervised) {id : Nat}
    {outcome : Except Failure Unit} (stage : s.stage = .closing id outcome) :
    ∃ t, s.rig.tasks = [t] ∧ s.rig.lifecycle.handle = none ∧ t.id = id := by
  simpa only [Supervised, stage] using sup

theorem Supervised.over {s : Soak} (sup : s.Supervised) {result : Except Failure Report}
    (stage : s.stage = .over result) : s.rig.tasks = [] ∧ s.rig.lifecycle.handle = none := by
  simpa only [Supervised, stage] using sup

theorem Supervised.tasks {s : Soak} (sup : s.Supervised) :
    s.rig.tasks = [] ∨ ∃ t, s.rig.tasks = [t] := by
  unfold Supervised at sup
  split at sup
  · exact .inr (sup.imp fun _ h => h.1)
  · exact .inr (sup.imp fun _ h => h.1)
  · exact .inr (sup.imp fun _ h => h.1)
  · exact .inl sup.1
  · exact .inr (sup.imp fun _ h => h.1)

theorem isReady_deadline (s : Soak) :
    s.isReady .deadline = true ↔ s.stage = .selecting ∧ s.deadline ≤ s.rig.now := by
  simp [isReady, isSelecting_iff]

theorem isReady_tick (s : Soak) :
    s.isReady .tick = true ↔ s.stage = .selecting ∧ s.nextTick ≤ s.rig.now := by
  simp [isReady, isSelecting_iff]

theorem isReady_reconnect (s : Soak) :
    s.isReady .reconnect = true ↔ s.stage = .selecting ∧ s.rig.dispatcher.reconnect = true := by
  simp [isReady, isSelecting_iff]

theorem isReady_restart (s : Soak) :
    s.isReady .restart = true ↔ s.stage = .selecting ∧ s.rig.dispatcher.restart = true := by
  simp [isReady, isSelecting_iff]

def advanced (setup : Setup) (s : Soak) : Soak :=
  { s.probed setup with
    rig := (s.observed setup).record
      (.progressAdvanced s.detector.last s.rig.dispatcher.tracker.established)
    detector := ⟨s.rig.dispatcher.tracker.established⟩ }

theorem inspect_eq {setup : Setup} {s : Soak} {nextTick : Nat}
    (room : s.tickAfter? setup = some nextTick) :
    { s with nextTick }.inspect setup =
      if setup.config.maxSysMemory < (setup.readings s.samples).system then
        (.error (s.excess setup), s.probed setup)
      else if s.rig.dispatcher.tracker.established ≤ s.detector.last then
        (.error s.stall, { s.probed setup with rig := s.observed setup })
      else (.ok (), s.advanced setup) := by
  unfold inspect StallDetector.observe
  by_cases above : setup.config.maxSysMemory < (setup.readings s.samples).system
  · simp [probed, excess, room, above]
  · by_cases stuck : s.rig.dispatcher.tracker.established ≤ s.detector.last <;>
      simp [probed, observed, advanced, Soak.stall, measure, room, record, above, stuck]

/-- The clock has room for one interval more. -/
def Timely (setup : Setup) (s : Soak) : Prop :=
  s.rig.now + setup.intervalMs < setup.clock.endMs

theorem interval_pos {setup : Setup} (valid : setup.config.validate = .ok ()) :
    0 < setup.intervalMs := by
  have positive : setup.config.sampleIntervalSecs ≠ 0 := by
    intro none
    unfold RunConfig.validate at valid
    rw [none] at valid
    split at valid
    · cases valid
    · cases valid
  exact Nat.mul_pos (Nat.pos_of_ne_zero positive) (by decide)

theorem slack_lt_interval {setup : Setup} (valid : setup.config.validate = .ok ()) :
    tickSlackMs < setup.intervalMs := by
  have positive := interval_pos valid
  simp only [Setup.intervalMs, tickSlackMs] at positive ⊢
  omega

theorem Timely.exists_tickAfter {setup : Setup} {s : Soak} (timely : s.Timely setup)
    (valid : setup.config.validate = .ok ()) (due : s.nextTick ≤ s.rig.now) :
    ∃ base, s.tickAfter? setup = some (base + setup.intervalMs) ∧ s.nextTick ≤ base ∧
      base ≤ s.rig.now ∧ s.rig.now ≤ base + tickSlackMs := by
  unfold Timely at timely
  have slack := slack_lt_interval valid
  have noticed : setup.clock.add? s.nextTick tickSlackMs = some (s.nextTick + tickSlackMs) :=
    if_neg (by omega)
  by_cases early : s.rig.now ≤ s.nextTick + tickSlackMs
  · have counted : setup.clock.add? s.nextTick setup.intervalMs =
        some (s.nextTick + setup.intervalMs) := if_neg (by omega)
    exact ⟨s.nextTick, by simp [tickAfter?, noticed, early, counted], Nat.le_refl _, due, early⟩
  · have counted : setup.clock.add? s.rig.now setup.intervalMs =
        some (s.rig.now + setup.intervalMs) := if_neg (by omega)
    exact ⟨s.rig.now, by simp [tickAfter?, noticed, early, counted], due, Nat.le_refl _,
      Nat.le_add_right _ _⟩

theorem Timely.exists_probed {setup : Setup} {s : Soak} (timely : s.Timely setup)
    (valid : setup.config.validate = .ok ()) (due : s.nextTick ≤ s.rig.now) :
    ∃ base, (s.probed setup).nextTick = base + setup.intervalMs ∧ s.nextTick ≤ base ∧
      base ≤ s.rig.now ∧ s.rig.now ≤ base + tickSlackMs := by
  obtain ⟨base, counted, place⟩ := timely.exists_tickAfter valid due
  refine ⟨base, ?_, place⟩
  change (s.tickAfter? setup).getD s.nextTick = _
  rw [counted, Option.getD_some]

theorem Timely.tickAfter_ne_none {setup : Setup} {s : Soak} (timely : s.Timely setup)
    (valid : setup.config.validate = .ok ()) (due : s.nextTick ≤ s.rig.now) :
    s.tickAfter? setup ≠ none := by
  obtain ⟨base, counted, -⟩ := timely.exists_tickAfter valid due
  simp [counted]

section step
variable {setup : Setup} {s next : Soak} (sup : s.Supervised)
include sup

theorem transition_of_tick (h : s.step setup .tick = some next) :
    Transition setup s .tick next := by
  obtain ⟨ready, made⟩ := Option.ite_none_right_eq_some.mp h
  obtain ⟨stage, due⟩ := s.isReady_tick.mp ready
  obtain ⟨t, sole, held⟩ := sup.selecting stage
  cases counted : s.tickAfter? setup with
  | none =>
    simp only [counted] at made
    cases made
    exact .overrun stage sole held due counted
  | some nextTick =>
    have room : s.tickAfter? setup ≠ none := by simp [counted]
    simp only [counted, inspect_eq counted] at made
    by_cases above : setup.config.maxSysMemory < (setup.readings s.samples).system
    · rw [if_pos above] at made
      cases made
      rw [close_sole (s := s.probed setup) _ sole held]
      exact .exceed stage sole held due room above
    · rw [if_neg above] at made
      have within := Nat.le_of_not_lt above
      by_cases stuck : s.rig.dispatcher.tracker.established ≤ s.detector.last
      · rw [if_pos stuck] at made
        cases made
        rw [close_sole (s := { s.probed setup with rig := s.observed setup }) _ sole held]
        exact .stall stage sole held due room within stuck
      · rw [if_neg stuck] at made
        cases made
        exact .advance stage sole held due room within (Nat.lt_of_not_le stuck)

theorem transition_of_join (h : s.step setup .join = some next) :
    Transition setup s .join next := by
  simp only [step, join] at h
  split at h
  · rename_i id stage
    obtain ⟨t, sole, unheld, rfl⟩ := sup.restarting stage
    obtain ⟨⟨stopped, rig⟩, joined, rfl⟩ := Option.map_eq_some_iff.mp h
    obtain ⟨-, joined⟩ := Rig.join_sole sole joined
    cases joined with
    | exited exited =>
      have vacant : (s.rig.vacated (.controllerStopped t.id)).lifecycle.handle = none := unheld
      cases refusal : setup.plan.refusal (s.rig.counters.attempts + 1) with
      | none =>
        simp only [renew, Rig.start_built vacant refusal]
        exact .renew stage sole unheld exited refusal
      | some failure =>
        simp only [renew, Rig.start_refused vacant refusal]
        rw [close_unheld
          (s := { s with rig := (s.rig.vacated (.controllerStopped t.id)).refused failure }) _
          unheld]
        exact .refuse stage sole unheld exited refusal
    | crashed crashed =>
      simp only [renew]
      rw [close_unheld (s := { s with rig := s.rig.vacated _ }) _ unheld]
      exact .collapse stage sole unheld crashed
  · rename_i id outcome stage
    obtain ⟨t, sole, unheld, rfl⟩ := sup.closing stage
    obtain ⟨⟨stopped, rig⟩, joined, rfl⟩ := Option.map_eq_some_iff.mp h
    exact .conclude stage sole unheld (Rig.join_sole sole joined).2
  · cases h

/-- The transitions are all that a supervised run can do. -/
theorem transition_of_step {move : Move} (h : s.step setup move = some next) :
    Transition setup s move next := by
  cases move with
  | deadline =>
    obtain ⟨ready, made⟩ := Option.ite_none_right_eq_some.mp h
    obtain ⟨stage, due⟩ := s.isReady_deadline.mp ready
    obtain ⟨t, sole, held⟩ := sup.selecting stage
    cases made
    rw [close_sole (s := s.record .durationElapsed) _ sole held]
    exact .expire stage sole held due
  | tick => exact transition_of_tick sup h
  | reconnect =>
    obtain ⟨ready, made⟩ := Option.ite_none_right_eq_some.mp h
    obtain ⟨stage, full⟩ := s.isReady_reconnect.mp ready
    obtain ⟨t, sole, held⟩ := sup.selecting stage
    have prodded : (s.rig.taken .reconnect).terminate = _ := Rig.terminate_sole sole held
    cases made
    unfold reconnect
    simp only [Rig.take]
    rw [← Rig.taken, prodded]
    exact .reconnect stage sole held full
  | restart =>
    obtain ⟨ready, made⟩ := Option.ite_none_right_eq_some.mp h
    obtain ⟨stage, full⟩ := s.isReady_restart.mp ready
    obtain ⟨t, sole, held⟩ := sup.selecting stage
    have released : (s.rig.taken .restart).cancel = _ := Rig.cancel_sole sole held
    cases made
    unfold restart
    simp only [Rig.take]
    rw [← Rig.taken, released]
    exact .replace stage sole held full
  | join => exact transition_of_join sup h
  | act id heed =>
    obtain ⟨rig, stepped, rfl⟩ := Option.map_eq_some_iff.mp h
    rcases sup.tasks with none | ⟨t, sole⟩
    · simp [Rig.stepTask, Rig.task?, none] at stepped
    · obtain ⟨rfl, -⟩ := (Rig.stepTask_sole _ sole _ _).mp stepped
      obtain ⟨working, after, acted⟩ := Rig.acted _ sole stepped
      exact .act sole stepped working acted
  | elapse =>
    obtain ⟨idle, made⟩ := Option.ite_none_right_eq_some.mp h
    obtain ⟨due, next, rfl⟩ := Option.map_eq_some_iff.mp made
    exact .elapse idle next

end step

theorem conclude_stage (s : Soak) (outcome stopped : Except Failure Unit) :
    ∃ result, (s.conclude outcome stopped).stage = .over result := by
  unfold conclude
  split <;> exact ⟨_, rfl⟩

theorem conclude_rig (s : Soak) (outcome stopped : Except Failure Unit) :
    ∃ event, event.isRoutine = true ∧ (s.conclude outcome stopped).rig = s.rig.record event := by
  unfold conclude
  split <;> exact ⟨_, rfl, rfl⟩

theorem Supervised.acted {s : Soak} {rig : Rig} {t after : Task} (sup : s.Supervised)
    (sole : s.rig.tasks = [t]) (acted : s.rig.Acted rig t after) :
    Supervised { s with rig } := by
  unfold Supervised at sup ⊢
  simp only [sole, List.cons.injEq, and_true, exists_eq_left', acted.tasks, acted.lifecycle,
    acted.kept.id, List.cons_ne_nil, false_and] at sup ⊢
  exact sup

theorem Opening.supervised {setup : Setup} {s : Soak} (h : Opening setup s) : s.Supervised := by
  cases h with
  | invalid | refused => exact ⟨rfl, rfl⟩
  | panicked | selecting => exact ⟨_, rfl, rfl⟩

theorem Transition.supervised {setup : Setup} {s next : Soak} {move : Move}
    (h : Transition setup s move next) (sup : s.Supervised) : next.Supervised := by
  cases h with
  | expire | exceed | stall | replace => exact ⟨_, rfl, rfl, rfl⟩
  | advance stage sole held => exact .of_selecting stage sole held
  | overrun stage sole held => exact ⟨_, sole, held⟩
  | reconnect stage sole held =>
    exact .of_selecting stage rfl ((congrArg some (Task.terminate_id _)).symm ▸ held)
  | renew => exact ⟨_, rfl, rfl⟩
  | refuse stage sole unheld => exact ⟨rfl, unheld⟩
  | collapse stage sole unheld => exact ⟨rfl, unheld⟩
  | @conclude t outcome stopped rig stage sole unheld joined =>
    have vacant : rig.tasks = [] ∧ rig.lifecycle.handle = none := by
      cases joined <;> exact ⟨rfl, unheld⟩
    obtain ⟨result, ended⟩ := conclude_stage { s with rig } outcome stopped
    obtain ⟨event, -, recorded⟩ := conclude_rig { s with rig } outcome stopped
    unfold Supervised
    rw [ended, recorded]
    exact vacant
  | act sole stepped working acted => exact sup.acted sole acted
  | elapse idle next => exact sup

variable {setup : Setup} {s : Soak}

theorem Reachable.supervised (reach : Reachable setup s) : s.Supervised := by
  induction reach with
  | begin => exact (begin_opening setup).supervised
  | step move _ step ih => exact (transition_of_step ih step).supervised ih

/-- What holds however a run begins and survives every transition holds throughout. -/
theorem Reachable.induct {motive : Soak → Prop}
    (opening : ∀ s, Opening setup s → motive s)
    (transition : ∀ s move next, Reachable setup s → motive s → Transition setup s move next →
      motive next) (reach : Reachable setup s) : motive s := by
  induction reach with
  | begin => exact opening _ (begin_opening setup)
  | step move reach step ih =>
    exact transition _ _ _ reach ih (transition_of_step reach.supervised step)

theorem Transition.now_le {next : Soak} {move : Move} (h : Transition setup s move next) :
    s.rig.now ≤ next.rig.now := by
  cases h with
  | act sole stepped working acted => exact Nat.le_of_eq acted.now.symm
  | elapse => exact Nat.le_max_left _ _
  | @conclude t outcome stopped rig stage sole unheld joined =>
    cases joined <;> cases outcome <;> exact Nat.le_refl _
  | _ => exact Nat.le_refl _

theorem Reachable.induct_timely {motive : Soak → Prop}
    (opening : ∀ s, Opening setup s → s.Timely setup → motive s)
    (transition : ∀ s move next, Reachable setup s → s.Timely setup → motive s →
      Transition setup s move next → motive next)
    (reach : Reachable setup s) (timely : s.Timely setup) : motive s := by
  revert timely
  refine reach.induct opening fun s move next reach ih h timely => ?_
  have before : s.Timely setup :=
    Nat.lt_of_le_of_lt (Nat.add_le_add_right h.now_le _) timely
  exact transition s move next reach before (ih before) h

section every
variable {P : Task → Prop} (built : ∀ index id, P { id, script := setup.plan.script index })
  (cancel : ∀ t, P t → P t.cancel) (terminate : ∀ t, P t → P t.terminate)
  (step : ∀ {t mid after : Task} {now : Nat} {heed : Bool} {e : Effect} {d later : Dispatcher}
    {results : List Dispatched}, P t → t.step now heed = some (mid, e) →
      Rig.Handled setup.coin d now mid e later results after → P after)
include built cancel terminate step

theorem Transition.every {next : Soak} {move : Move} (h : Transition setup s move next)
    (every : ∀ t ∈ s.rig.tasks, P t) : ∀ t ∈ next.rig.tasks, P t := by
  have only {t : Task} (sole : s.rig.tasks = [t]) : P t :=
    every t (sole ▸ List.mem_singleton_self t)
  cases h with
  | expire stage sole | exceed stage sole | stall stage sole | replace stage sole =>
    exact List.forall_mem_singleton.mpr (cancel _ (only sole))
  | reconnect stage sole => exact List.forall_mem_singleton.mpr (terminate _ (only sole))
  | renew => exact List.forall_mem_singleton.mpr (built _ _)
  | refuse | collapse => exact List.forall_mem_nil _
  | @conclude t outcome stopped rig stage sole unheld joined =>
    obtain ⟨event, -, recorded⟩ := conclude_rig { s with rig } outcome stopped
    rw [recorded]
    cases joined <;> exact List.forall_mem_nil _
  | act sole stepped =>
    obtain ⟨mid, e, ran, worked⟩ := Rig.worked _ sole stepped
    obtain ⟨results, after, handled, tasks, -⟩ := worked.handled
    change ∀ t ∈ Rig.tasks _, P t
    rw [tasks]
    exact List.forall_mem_singleton.mpr (step (only sole) ran handled)
  | advance | overrun | elapse => exact every

/-- What every controller has when it is built, and keeps whatever it does and whatever the loop
does to it, all controllers of a run have. -/
theorem Reachable.every (reach : Reachable setup s) : ∀ t ∈ s.rig.tasks, P t := by
  refine reach.induct (fun s opening => ?_) fun _ _ _ _ ih h =>
    h.every built cancel terminate step ih
  cases opening with
  | invalid | refused => exact List.forall_mem_nil _
  | panicked | selecting => exact List.forall_mem_singleton.mpr (built _ _)

end every

theorem Transition.not_over {next : Soak} {move : Move} (h : Transition setup s move next)
    (sup : s.Supervised) (result : Except Failure Report) : s.stage ≠ .over result := by
  intro ended
  have vacant := (sup.over ended).1
  cases h with
  | act sole => simp [vacant] at sole
  | elapse idle next => simp [dues, isSelecting, ended, vacant] at next
  | _ => simp_all

end Soak

end TunnelSoak
