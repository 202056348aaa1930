import TunnelSoak.Proofs.Simulation.Retirement
import TunnelSoak.Proofs.Soak.Ledger
import TunnelSoak.Proofs.Soak.Run

/-! The course of a run with the simulated controller. However the moves fall, the run
keeps the pace: it is at a point of some cycle while it selects, between two cycles
while it restarts, and done with sampling while it closes. Each move brings it closer
to its end, which is the reference outcome. -/
namespace TunnelSoak.Simulation

open Controller (Task)
open Soak (Transition Opening Move Reachable)

structure Simulated (sim : Simulation) (setup : Setup) : Prop where
  plan : setup.plan = sim.plan
  builds : sim.failConstruction = false
  fits : sim.Fits
  valid : setup.config.validate = .ok ()
  duration : setup.config.durationSecs < Nat.pow 2 62
  interval : setup.config.sampleIntervalSecs < Nat.pow 2 62
  untied : (sim.pace setup).Untied

variable (sim : Simulation) (setup : Setup)

/-- The clock and the samples of a run that goes on. A sample beyond the end of the run may be put
off further than an interval. -/
structure OnTime (s : Soak) : Prop where
  deadline : s.deadline = (sim.pace setup).durationMs
  nextTick : s.nextTick = (s.samples + 1) * (sim.pace setup).intervalMs ∨
    (sim.pace setup).durationMs < s.nextTick ∧
      (sim.pace setup).durationMs < (s.samples + 1) * (sim.pace setup).intervalMs
  within : s.rig.now ≤ (sim.pace setup).durationMs
  late : s.samples * (sim.pace setup).intervalMs ≤ s.rig.now
  early : s.rig.now ≤ (s.samples + 1) * (sim.pace setup).intervalMs
  sane : ∀ i, 1 ≤ i → i ≤ s.samples → sim.isFaulty setup i = false
  last : s.detector.last = (sim.pace setup).countAt s.samples

structure Cycling (s : Soak) (id k : Nat) (point : Point) : Prop where
  onTime : OnTime sim setup s
  tasks : s.rig.tasks = [point.task sim (sim.pace setup) id k false]
  dispatcher : s.rig.dispatcher = desk setup k point.counted point.posted
  window : point.Window (sim.pace setup) k s.rig.now
  reconnects : s.reconnects = requestsOf setup .reconnect k
  restarts : s.restarts = requestsOf setup .restart k

/-- The controller of the last cycle goes, and cycle `k` begins once it is gone. -/
structure Renewing (s : Soak) (t : Task) (k left : Nat) : Prop where
  onTime : OnTime sim setup s
  tasks : s.rig.tasks = [t]
  retiring : Retiring sim setup s.rig.now t left s.rig.now
  awake : t.isSettling = false
  dispatcher : s.rig.dispatcher = desk setup k false false
  begun : s.rig.now = k * (sim.pace setup).periodMs
  reconnects : s.reconnects = requestsOf setup .reconnect k
  restarts : s.restarts + 1 = requestsOf setup .restart k

/-- The last controller goes, and what is left is to report. -/
structure Leaving (s : Soak) (t : Task) (left till : Nat) (outcome : Except Failure Unit) :
    Prop where
  tasks : s.rig.tasks = [t]
  retiring : Retiring sim setup s.rig.now t left till
  probes : s.samples = sim.probes setup
  decided : sim.outcome setup = outcome.map fun _ => { s.report with elapsedMs := till }

/-- Time, samples and cycles that are left when cycle `k` begins or goes on. A cycle counts
for more moves than a controller makes in it, from its first act to its retirement. -/
def ahead (s : Soak) (k : Nat) : Nat :=
  ((sim.pace setup).durationMs - s.rig.now) + ((sim.pace setup).durationMs - s.samples) +
    40 * ((sim.pace setup).durationMs - k)

variable {sim setup} {s next : Soak} (simulated : Simulated sim setup)
include simulated

theorem Simulated.positive :
    0 < setup.config.durationSecs ∧ 0 < setup.config.sampleIntervalSecs := by
  have valid := simulated.valid
  unfold RunConfig.validate at valid
  split at valid
  · cases valid
  · split at valid
    · cases valid
    · exact ⟨Nat.pos_of_ne_zero ‹_›, Nat.pos_of_ne_zero ‹_›⟩

theorem Simulated.interval_pos : 0 < (sim.pace setup).intervalMs :=
  Nat.mul_pos simulated.positive.2 (by decide)

theorem Simulated.duration_le : setup.durationMs + 1000 ≤ Nat.pow 2 62 * 1000 :=
  Nat.succ_mul _ _ ▸ Nat.mul_le_mul_right 1000 simulated.duration

theorem Simulated.interval_lt : setup.intervalMs < Nat.pow 2 62 * 1000 :=
  Nat.mul_lt_mul_of_pos_right simulated.interval (by decide)

theorem Simulated.built (attempt : Nat) : setup.plan.refusal attempt = none := by
  rw [simulated.plan]
  exact if_neg (by simp [simulated.builds])

theorem Simulated.recruit (rig : Rig) (k : Nat) : rig.recruit setup.plan =
    Point.spawned.task sim (sim.pace setup) (rig.counters.constructed + 1) k false := by
  rw [simulated.plan, Rig.recruit, plan_script simulated.fits]
  rfl

section OnTime
variable (onTime : OnTime sim setup s)
include onTime

theorem OnTime.tick (due : s.nextTick ≤ s.rig.now) :
    s.rig.now = (s.samples + 1) * (sim.pace setup).intervalMs ∧
      s.rig.now < (sim.pace setup).durationMs ∧ s.samples + 1 ≤ (sim.pace setup).samples := by
  have within := onTime.within
  have now : s.rig.now = (s.samples + 1) * (sim.pace setup).intervalMs := by
    rcases onTime.nextTick with exact | ⟨beyond, -⟩
    · exact Nat.le_antisymm onTime.early (exact ▸ due)
    · exact absurd (Nat.le_trans due within) (Nat.not_le_of_lt beyond)
  rw [now] at within
  have apart : (s.samples + 1) * (sim.pace setup).intervalMs ≠ (sim.pace setup).durationMs :=
    fun same => simulated.untied.duration_sample ⟨_, same.symm.trans (Nat.mul_comm _ _)⟩
  exact ⟨now, now ▸ Nat.lt_of_le_of_ne within apart,
    (Nat.le_div_iff_mul_le simulated.interval_pos).mpr within⟩

/-- The sample after this one is an interval later, or beyond the end of the run if the clock has no
such time. -/
theorem OnTime.exists_tickAfter (due : s.nextTick ≤ s.rig.now) :
    ∃ next, s.tickAfter? setup = some next ∧
      (next = (s.samples + 2) * (sim.pace setup).intervalMs ∨
        (sim.pace setup).durationMs < next ∧
          (sim.pace setup).durationMs < (s.samples + 2) * (sim.pace setup).intervalMs) := by
  obtain ⟨now, early, -⟩ := onTime.tick simulated due
  have prompt : s.nextTick = s.rig.now := by
    rcases onTime.nextTick with exact | ⟨beyond, -⟩
    · exact exact.trans now.symm
    · exact absurd (Nat.lt_of_lt_of_le beyond due) (Nat.lt_asymm early)
  have after : (s.samples + 2) * (sim.pace setup).intervalMs = s.rig.now + setup.intervalMs := by
    rw [now, Nat.succ_mul (s.samples + 1)]
    rfl
  have half := setup.clock.half_le
  have duration : (sim.pace setup).durationMs + 1000 ≤ Nat.pow 2 62 * 1000 :=
    simulated.duration_le
  have noticed : setup.clock.add? s.rig.now Soak.tickSlackMs =
      some (s.rig.now + Soak.tickSlackMs) := if_neg (by unfold Soak.tickSlackMs; omega)
  rw [after]
  by_cases full : setup.clock.endMs ≤ s.rig.now + setup.intervalMs
  · have interval := simulated.interval_lt
    have roomy := setup.clock.roomy
    have far := setup.clock.far_le
    have parts : Nat.pow 2 63 * 1000 = 2 * (Nat.pow 2 62 * 1000) := rfl
    have parts' : Nat.pow 2 62 * 1000 = 2 * (Nat.pow 2 61 * 1000) := rfl
    have late : setup.clock.add? s.rig.now setup.clock.farMs =
        some (s.rig.now + setup.clock.farMs) := if_neg (by omega)
    have none : setup.clock.add? s.rig.now setup.intervalMs = none := if_pos full
    refine ⟨s.rig.now + setup.clock.farMs, ?_, .inr ⟨by omega, by omega⟩⟩
    simp [Soak.tickAfter?, prompt, noticed, none, late]
  · have counted : setup.clock.add? s.rig.now setup.intervalMs =
        some (s.rig.now + setup.intervalMs) := if_neg full
    exact ⟨_, by simp [Soak.tickAfter?, prompt, noticed, counted], .inl rfl⟩

theorem OnTime.finished (due : s.deadline ≤ s.rig.now) :
    s.rig.now = (sim.pace setup).durationMs ∧ s.samples = (sim.pace setup).samples := by
  have now : s.rig.now = (sim.pace setup).durationMs :=
    Nat.le_antisymm onTime.within (onTime.deadline ▸ due)
  have late := onTime.late
  have early := onTime.early
  rw [now] at late early
  have apart : (sim.pace setup).durationMs ≠ (s.samples + 1) * (sim.pace setup).intervalMs :=
    fun same => simulated.untied.duration_sample ⟨_, same.trans (Nat.mul_comm _ _)⟩
  exact ⟨now, (Nat.div_eq_of_lt_le late (Nat.lt_of_le_of_ne early apart)).symm⟩

omit simulated in
theorem OnTime.carry (now : next.rig.now = s.rig.now)
    (same : next.deadline = s.deadline ∧ next.nextTick = s.nextTick ∧ next.samples = s.samples ∧
      next.detector = s.detector) : OnTime sim setup next := by
  obtain ⟨deadline, nextTick, within, late, early, sane, last⟩ := onTime
  obtain ⟨sameDeadline, sameTick, samples, detector⟩ := same
  rw [← now] at within late early
  rw [← samples, ← sameTick] at nextTick
  rw [← samples] at late early sane last
  exact ⟨sameDeadline.trans deadline, nextTick, within, late, early, sane, detector ▸ last⟩

end OnTime

omit simulated in
theorem ahead_succ {k : Nat} (more : k + 1 ≤ (sim.pace setup).durationMs) :
    ahead sim setup s k = ahead sim setup s (k + 1) + 40 := by
  unfold ahead
  omega

section Cycling
variable {id k : Nat} {point : Point} {t : Task} (cycling : Cycling sim setup s id k point)
include cycling

omit simulated in
theorem Cycling.retiring (sole : s.rig.tasks = [t])
    (untied : ∀ k, s.rig.now ≠ sim.establishMs + k * (sim.pace setup).periodMs) :
    ∃ left ≤ 20, Retiring sim setup s.rig.now t.cancel left
      (point.till (sim.pace setup) k s.rig.now) := by
  obtain rfl : t = point.task sim (sim.pace setup) id k false :=
    List.singleton_inj.mp (sole.symm.trans cycling.tasks)
  rw [Point.cancel_task]
  exact Point.retiring cycling.window untied

theorem Cycling.report (ledger : s.Ledger setup) (now : s.rig.now = (sim.pace setup).durationMs)
    (samples : s.samples = (sim.pace setup).samples) :
    sim.report setup = { s.report with elapsedMs := point.till (sim.pace setup) k s.rig.now } := by
  have window := cycling.window
  rw [now] at window
  have established := Point.Window.established window simulated.untied.duration_establishment
  have requests : (sim.pace setup).requests = k :=
    Point.Window.requests window simulated.untied.duration_request
  have desk : s.rig.dispatcher = desk setup k point.counted point.posted := cycling.dispatcher
  have peak : s.peak =
      (List.range s.samples).foldl (fun peak i => max peak (setup.readings i).system) 0 := by
    rw [ledger.peak, History.peak, ledger.drawn, List.foldl_map]
  have last : s.lastCumulative =
      if s.samples = 0 then 0 else (setup.readings (s.samples - 1)).cumulative := by
    rw [ledger.lastCumulative, History.lastCumulative, ledger.drawn]
    cases s.samples with
    | zero => rfl
    | succ n => simp [List.range_succ]
  unfold Simulation.report Soak.report
  rw [desk, established, requests, ← samples, peak, last, now, Point.Window.till window,
    cycling.reconnects, cycling.restarts]
  rfl

theorem Cycling.expire (sole : s.rig.tasks = [t]) (due : s.deadline ≤ s.rig.now)
    (ledger : s.Ledger setup) :
    ∃ left ≤ 20, ∃ till, Leaving sim setup
      { s with
        rig := (s.rig.record .durationElapsed).released t
        stage := .closing t.id (.ok ()) } t.cancel left till (.ok ()) := by
  obtain ⟨now, samples⟩ := cycling.onTime.finished simulated due
  have untied := simulated.untied.duration_establishment
  rw [← now] at untied
  obtain ⟨left, few, retiring⟩ := cycling.retiring sole untied
  obtain ⟨outcome, probes⟩ := outcome_of_sane (samples ▸ cycling.onTime.sane)
  refine ⟨left, few, _, rfl, retiring, samples.trans probes.symm, outcome.trans ?_⟩
  exact congrArg Except.ok (cycling.report simulated ledger now samples)

section tick
variable (due : s.nextTick ≤ s.rig.now)
include due

theorem Cycling.count : s.rig.dispatcher.tracker.established =
    (sim.pace setup).countAt (s.samples + 1) := by
  obtain ⟨now, early, -⟩ := cycling.onTime.tick simulated due
  have untied := simulated.untied.sample_establishment (s.samples + 1)
  have established := Point.Window.established cycling.window
    fun k => now ▸ untied k (Nat.succ_pos _) (now ▸ early)
  rw [cycling.dispatcher, Pace.countAt, if_neg (Nat.succ_ne_zero _), ← now, established]
  rfl

theorem Cycling.fails (sole : s.rig.tasks = [t])
    (faulty : sim.isFaulty setup (s.samples + 1) = true) (rig : Rig) (same : rig.now = s.rig.now) :
    ∃ left ≤ 20, ∃ till, Leaving sim setup
      { s.probed setup with
        rig := rig.released t
        stage := .closing t.id (.error (sim.failureAt setup (s.samples + 1))) } t.cancel left till
        (.error (sim.failureAt setup (s.samples + 1))) := by
  obtain ⟨now, early, inside⟩ := cycling.onTime.tick simulated due
  have untied := simulated.untied.sample_establishment (s.samples + 1)
  obtain ⟨left, few, retiring⟩ := cycling.retiring sole
    fun k => now ▸ untied k (Nat.succ_pos _) (now ▸ early)
  have first : ∀ i, 1 ≤ i → i < s.samples + 1 → sim.isFaulty setup i = false :=
    fun i low high => cycling.onTime.sane i low (Nat.le_of_lt_succ high)
  obtain ⟨outcome, probes⟩ := outcome_of_faulty first faulty (Nat.succ_pos _) inside
  rw [← same] at retiring
  exact ⟨left, few, _, rfl, retiring, probes.symm, outcome⟩

omit simulated cycling due in
theorem faulty_of_excess (above : setup.config.maxSysMemory < (setup.readings s.samples).system) :
    sim.isFaulty setup (s.samples + 1) = true ∧
      s.excess setup = sim.failureAt setup (s.samples + 1) := by
  unfold isFaulty failureAt
  simp [above, Soak.excess]

theorem Cycling.faulty_of_stall
    (within : (setup.readings s.samples).system ≤ setup.config.maxSysMemory)
    (stuck : s.rig.dispatcher.tracker.established ≤ s.detector.last) :
    sim.isFaulty setup (s.samples + 1) = true ∧ s.stall = sim.failureAt setup (s.samples + 1) := by
  have count := cycling.count simulated due
  have last := cycling.onTime.last
  have same : (sim.pace setup).countAt (s.samples + 1) = (sim.pace setup).countAt s.samples := by
    refine Nat.le_antisymm ?_ (Pace.countAt_le_succ _)
    rw [← count, ← last]
    exact stuck
  unfold isFaulty failureAt Soak.stall
  simp [same, Nat.not_lt.mpr within, count, last]

theorem Cycling.advance
    (within : (setup.readings s.samples).system ≤ setup.config.maxSysMemory)
    (progress : s.detector.last < s.rig.dispatcher.tracker.established) :
    Cycling sim setup
      { s.probed setup with
        rig := (s.observed setup).record
          (.progressAdvanced s.detector.last s.rig.dispatcher.tracker.established)
        detector := ⟨s.rig.dispatcher.tracker.established⟩ } id k point := by
  obtain ⟨now, early, -⟩ := cycling.onTime.tick simulated due
  have count := cycling.count simulated due
  have last := cycling.onTime.last
  have sound : sim.isFaulty setup (s.samples + 1) = false := by
    rw [last, count] at progress
    simp [isFaulty, Nat.not_lt.mpr within, Nat.ne_of_gt progress]
  obtain ⟨tick, found, place⟩ := cycling.onTime.exists_tickAfter simulated due
  have set : (s.probed setup).nextTick = tick := by
    change (s.tickAfter? setup).getD s.nextTick = tick
    rw [found, Option.getD_some]
  rw [← set] at place
  refine ⟨⟨cycling.onTime.deadline, place, cycling.onTime.within, Nat.le_of_eq now.symm, ?_, ?_,
    count⟩, cycling.tasks, cycling.dispatcher, cycling.window, cycling.reconnects, cycling.restarts⟩
  · exact Nat.le_trans cycling.onTime.early (Nat.mul_le_mul_right _ (Nat.le_succ _))
  · intro i low high
    rcases Nat.le_succ_iff.mp high with high | rfl
    · exact cycling.onTime.sane i low high
    · exact sound

end tick

section request
variable {request : Request} (full : s.rig.dispatcher.pending request = true)
include full

omit simulated in
theorem Cycling.posted :
    point.posted = true ∧ setup.config.mode.request setup.coin k = request := by
  rw [cycling.dispatcher] at full
  cases request <;> simpa [Dispatcher.pending, desk] using full

theorem Cycling.taken : (s.rig.dispatcher.take request).2 = desk setup (k + 1) false false ∧
    s.rig.now = (k + 1) * (sim.pace setup).periodMs ∧ k + 1 ≤ (sim.pace setup).durationMs := by
  obtain ⟨posted, pending⟩ := cycling.posted full
  have dispatcher := cycling.dispatcher
  have window := cycling.window
  have counted : point.counted = true ∧ s.rig.now = (k + 1) * (sim.pace setup).periodMs := by
    cases point <;> first | exact ⟨rfl, window⟩ | cases posted
  rw [counted.1, posted] at dispatcher
  refine ⟨dispatcher ▸ desk_take setup k pending, counted.2, ?_⟩
  have within := cycling.onTime.within
  rw [counted.2] at within
  exact Nat.le_trans (Nat.le_mul_of_pos_right _ simulated.untied.period) within

end request

theorem Cycling.reconnect (sole : s.rig.tasks = [t])
    (full : s.rig.dispatcher.pending .reconnect = true) :
    ∃ later : Point, Cycling sim setup
      { s with rig := (s.rig.taken .reconnect).prodded t, reconnects := s.reconnects + 1 }
      id (k + 1) later := by
  obtain ⟨posted, pending⟩ := cycling.posted full
  obtain ⟨taken, now, -⟩ := cycling.taken simulated full
  obtain rfl : t = point.task sim (sim.pace setup) id k false :=
    List.singleton_inj.mp (sole.symm.trans cycling.tasks)
  have reconnects : s.reconnects + 1 = requestsOf setup .reconnect (k + 1) := by
    rw [requestsOf_succ, if_pos pending, cycling.reconnects]
  have restarts : s.restarts = requestsOf setup .restart (k + 1) := by
    rw [requestsOf_succ, pending, cycling.restarts]
    rfl
  cases point with
  | settled =>
    exact ⟨.asked, cycling.onTime.carry rfl ⟨rfl, rfl, rfl, rfl⟩, rfl, taken, now, reconnects,
      restarts⟩
  | parked =>
    exact ⟨.woken, cycling.onTime.carry rfl ⟨rfl, rfl, rfl, rfl⟩, rfl, taken, now, reconnects,
      restarts⟩
  | _ => cases posted

theorem Cycling.replace (sole : s.rig.tasks = [t])
    (full : s.rig.dispatcher.pending .restart = true) :
    ∃ left, left + point.rank ≤ 20 ∧ Renewing sim setup
      { s with rig := (s.rig.taken .restart).released t, stage := .restarting t.id }
      t.cancel (k + 1) left := by
  obtain ⟨posted, pending⟩ := cycling.posted full
  obtain ⟨taken, now, -⟩ := cycling.taken simulated full
  obtain rfl : t = point.task sim (sim.pace setup) id k false :=
    List.singleton_inj.mp (sole.symm.trans cycling.tasks)
  have reconnects : s.reconnects = requestsOf setup .reconnect (k + 1) := by
    rw [requestsOf_succ, pending, cycling.reconnects]
    rfl
  have restarts : s.restarts + 1 = requestsOf setup .restart (k + 1) := by
    rw [requestsOf_succ, if_pos pending, cycling.restarts]
  rw [Point.cancel_task]
  refine ⟨20 - point.rank, ?_, ⟨cycling.onTime.carry rfl ⟨rfl, rfl, rfl, rfl⟩, ?_,
    .late point k posted, ?_, taken, now, reconnects, restarts⟩⟩
  · cases point <;> decide
  · exact congrArg (fun t => [t]) (point.cancel_task id k)
  · cases point <;> first | rfl | cases posted

omit simulated in
theorem Cycling.act {after : Task} {rig : Rig} {number : Nat} {heed : Bool}
    (stepped : s.rig.stepTask setup.coin number heed = some rig)
    (acted : s.rig.Acted rig t after) :
    ∃ later : Point, point.rank < later.rank ∧ Cycling sim setup { s with rig } id k later := by
  obtain ⟨later, further, tasks, dispatcher, window⟩ :=
    Point.act cycling.tasks cycling.dispatcher cycling.window stepped
  have now : rig.now = s.rig.now := acted.now
  rw [← now] at window
  exact ⟨later, further, cycling.onTime.carry now ⟨rfl, rfl, rfl, rfl⟩, tasks, dispatcher, window,
    cycling.reconnects, cycling.restarts⟩

omit simulated in
theorem Cycling.waits (stage : s.stage = .selecting) (idle : s.isIdle setup = true) :
    ∃ due, s.rig.tasks.filterMap Task.due? = [due] ∧ s.rig.now < due ∧
      ∀ now, s.rig.now ≤ now → now ≤ due → point.Window (sim.pace setup) k now := by
  have window := cycling.window
  obtain ⟨unready, -, still⟩ := Soak.isIdle_iff.mp idle
  rw [cycling.tasks] at still ⊢
  have still := still _ (List.mem_singleton_self _)
  cases point with
  | waiting =>
    refine ⟨_, rfl, Nat.lt_of_not_le fun due => ?_, fun now late early => ⟨?_, ?_⟩⟩
    · rw [Point.step_waiting, if_pos due] at still
      cases still
    · exact Nat.le_trans window.1 late
    · exact early
  | settling =>
    refine ⟨_, rfl, Nat.lt_of_not_le fun due => ?_, fun now late early => ⟨?_, ?_⟩⟩
    · rw [Point.step_settling, if_pos due] at still
      cases still
    · exact Nat.le_trans window.1 late
    · exact early
  | parked =>
    -- the request of this cycle is pending, so the loop is not idle
    have reconnect := unready .reconnect (by decide)
    have restart := unready .restart (by decide)
    simp only [Soak.isReady, (s.isSelecting_iff).mpr stage, cycling.dispatcher, desk, Point.posted,
      Bool.true_and] at reconnect restart
    cases request : setup.config.mode.request setup.coin k <;> simp [request] at reconnect restart
  | _ => cases still

omit simulated in
theorem Cycling.elapse (stage : s.stage = .selecting) (idle : s.isIdle setup = true) {due : Nat}
    (least : s.dues.min? = some due) :
    s.rig.now < due ∧ due ≤ (sim.pace setup).durationMs ∧
      Cycling sim setup { s with rig.now := due } id k point := by
  obtain ⟨wait, waiting, future, window⟩ := cycling.waits stage idle
  have listed : s.dues = [s.deadline, s.nextTick, wait] := by
    rw [Soak.dues, (s.isSelecting_iff).mpr stage, waiting]
    rfl
  rw [listed] at least
  obtain ⟨mem, least⟩ := List.min?_eq_some_iff.mp least
  obtain ⟨unready, -, -⟩ := Soak.isIdle_iff.mp idle
  have deadline : s.rig.now < s.deadline := by
    have early := unready .deadline (by decide)
    simpa [Soak.isReady, (s.isSelecting_iff).mpr stage] using early
  have nextTick : s.rig.now < s.nextTick := by
    have early := unready .tick (by decide)
    simpa [Soak.isReady, (s.isSelecting_iff).mpr stage] using early
  have later : s.rig.now < due := by
    simp only [List.mem_cons, List.not_mem_nil, or_false] at mem
    rcases mem with rfl | rfl | rfl <;> assumption
  have onTime := cycling.onTime
  have within : due ≤ (sim.pace setup).durationMs :=
    onTime.deadline ▸ least s.deadline List.mem_cons_self
  have early : due ≤ (s.samples + 1) * (sim.pace setup).intervalMs := by
    rcases onTime.nextTick with exact | ⟨-, beyond⟩
    · exact exact ▸ least s.nextTick (by simp)
    · exact Nat.le_trans within (Nat.le_of_lt beyond)
  exact ⟨later, within, ⟨onTime.deadline, onTime.nextTick, within,
    Nat.le_trans onTime.late (Nat.le_of_lt later), early, onTime.sane, onTime.last⟩,
    cycling.tasks, cycling.dispatcher, window due (Nat.le_of_lt later) (least wait (by simp)),
    cycling.reconnects, cycling.restarts⟩

end Cycling

section Renewing
variable {t : Task} {k left : Nat} (renewing : Renewing sim setup s t k left)
include renewing

theorem Renewing.renew :
    Cycling sim setup
      { s with
        rig := (s.rig.vacated (.controllerStopped t.id)).staffed setup.plan
        stage := .selecting
        restarts := s.restarts + 1 } (s.rig.counters.constructed + 1) k .spawned := by
  exact ⟨renewing.onTime.carry rfl ⟨rfl, rfl, rfl, rfl⟩,
    congrArg (fun t => [t]) (simulated.recruit _ k), renewing.dispatcher, renewing.begun,
    renewing.reconnects, renewing.restarts⟩

omit simulated in
theorem Renewing.act {after : Task} {rig : Rig} {id : Nat} {heed : Bool}
    (stepped : s.rig.stepTask setup.coin id heed = some rig)
    (acted : s.rig.Acted rig t after) :
    ∃ fewer < left, ∃ later, Renewing sim setup { s with rig } later k fewer := by
  obtain ⟨⟨later, fewer, tasks, awake, less, retiring⟩, -, dispatcher⟩ :=
    renewing.retiring.act renewing.tasks stepped
  have now : rig.now = s.rig.now := acted.now
  rw [← now] at retiring
  exact ⟨fewer, less, later, renewing.onTime.carry now ⟨rfl, rfl, rfl, rfl⟩, tasks, retiring, awake,
    (dispatcher renewing.awake).trans renewing.dispatcher, now.trans renewing.begun,
    renewing.reconnects, renewing.restarts⟩

omit simulated in
theorem Renewing.busy (stage : s.stage = .restarting t.id) : s.isIdle setup = false := by
  rcases renewing.retiring.busy with exited | acts | ⟨asleep, -⟩
  · exact Soak.busy_of_over renewing.tasks (Task.isOver_of_exited exited) (.inl stage)
  · exact Soak.busy_of_step renewing.tasks acts
  · rw [renewing.awake] at asleep
    cases asleep

end Renewing

section Leaving
variable {t : Task} {left till : Nat} {outcome : Except Failure Unit}
  (leaving : Leaving sim setup s t left till outcome)
include leaving

omit simulated in
theorem Leaving.act {after : Task} {rig : Rig} {id : Nat} {heed : Bool}
    (stepped : s.rig.stepTask setup.coin id heed = some rig)
    (acted : s.rig.Acted rig t after) :
    ∃ fewer < left, ∃ later, Leaving sim setup { s with rig } later fewer till outcome := by
  obtain ⟨⟨later, fewer, tasks, -, less, retiring⟩, tracker, -⟩ :=
    leaving.retiring.act leaving.tasks stepped
  rw [← acted.now] at retiring
  refine ⟨fewer, less, later, tasks, retiring, leaving.probes, leaving.decided.trans ?_⟩
  simp only [Soak.report, acted.mode, tracker]

omit simulated in
theorem Leaving.conclude {rig : Rig} {stopped : Except Failure Unit}
    (joined : s.rig.Joined t stopped rig) :
    (({ s with rig } : Soak).conclude outcome stopped).stage = .over (sim.outcome setup) ∧
      (({ s with rig } : Soak).conclude outcome stopped).samples = s.samples := by
  cases joined with
  | crashed crashed => exact absurd crashed (leaving.retiring.not_crashed _)
  | exited exited =>
    have now := leaving.retiring.till_of_exited exited
    have decided := leaving.decided
    rw [now] at decided
    rw [decided]
    cases outcome <;> exact ⟨rfl, rfl⟩

omit simulated in
theorem Leaving.busy (stage : s.stage = .closing t.id (outcome)) :
    s.isIdle setup = false ∨ s.dues = [till] ∧ s.rig.now < till ∧
      ∃ fewer < left, Leaving sim setup { s with rig.now := till } t fewer till outcome := by
  rcases leaving.retiring.busy with exited | acts | ⟨-, due, later, fewer, less, retiring⟩
  · exact .inl (Soak.busy_of_over leaving.tasks (Task.isOver_of_exited exited) (.inr ⟨_, stage⟩))
  · exact .inl (Soak.busy_of_step leaving.tasks acts)
  · refine .inr ⟨?_, later, fewer, less, leaving.tasks, retiring, leaving.probes, leaving.decided⟩
    simp [Soak.dues, Soak.isSelecting, stage, leaving.tasks, due]

end Leaving

end TunnelSoak.Simulation
