import TunnelSoak.Proofs.Simulation.Course

/-! The reference for a run with the simulated controller. However the moves fall, the run
keeps the pace until it is over, each move brings it closer to its end, and the end is
the one that was computed beforehand. -/
namespace TunnelSoak.Simulation

open Controller (Task)
open Soak (Transition Opening Move Reachable)

variable (sim : Simulation) (setup : Setup)

def Paced (s : Soak) (m : Nat) : Prop :=
  match s.stage with
  | .selecting => ∃ id k point, Cycling sim setup s id k point ∧
    m = ahead sim setup s k + (20 - point.rank) + 40
  | .restarting _ => ∃ t k left, Renewing sim setup s t k left ∧
    m = ahead sim setup s k + (20 + left) + 40
  | .closing _ outcome => ∃ t left till, Leaving sim setup s t left till outcome ∧ m = left + 1
  | .over result => result = sim.outcome setup ∧ s.samples = sim.probes setup
  | .panicked _ => False

variable {sim setup} {s next : Soak} {m : Nat} (simulated : Simulated sim setup)
include simulated

omit simulated in
theorem paced_of_cycling {id k : Nat} {point : Point} (stage : s.stage = .selecting)
    (cycling : Cycling sim setup s id k point) :
    Paced sim setup s (ahead sim setup s k + (20 - point.rank) + 40) := by
  simp only [Paced, stage]
  exact ⟨id, k, point, cycling, rfl⟩

omit simulated in
theorem paced_of_renewing {t : Task} {id k left : Nat} (stage : s.stage = .restarting id)
    (renewing : Renewing sim setup s t k left) :
    Paced sim setup s (ahead sim setup s k + (20 + left) + 40) := by
  simp only [Paced, stage]
  exact ⟨t, k, left, renewing, rfl⟩

omit simulated in
theorem paced_of_leaving {t : Task} {id left till : Nat} {outcome : Except Failure Unit}
    (stage : s.stage = .closing id outcome) (leaving : Leaving sim setup s t left till outcome) :
    Paced sim setup s (left + 1) := by
  simp only [Paced, stage]
  exact ⟨t, left, till, leaving, rfl⟩

theorem Cycling.shrinks {id k : Nat} {point : Point} {move : Move} (stage : s.stage = .selecting)
    (cycling : Cycling sim setup s id k point) (ledger : s.Ledger setup)
    (h : Transition setup s move next) :
    ∃ n < ahead sim setup s k + (20 - point.rank) + 40, Paced sim setup next n := by
  have budget : ∀ left ≤ 20, left + 1 < ahead sim setup s k + (20 - point.rank) + 40 := by omega
  cases h with
  | expire stage sole held due =>
    obtain ⟨left, few, till, leaving⟩ := cycling.expire simulated sole due ledger
    exact ⟨_, budget left few, paced_of_leaving rfl leaving⟩
  | exceed stage sole held due room above =>
    obtain ⟨faulty, same⟩ := faulty_of_excess above
    obtain ⟨left, few, till, leaving⟩ :=
      cycling.fails simulated due sole faulty (s.probed setup).rig rfl
    rw [← same] at leaving
    exact ⟨_, budget left few, paced_of_leaving rfl leaving⟩
  | stall stage sole held due room within stuck =>
    obtain ⟨faulty, same⟩ := cycling.faulty_of_stall simulated due within stuck
    obtain ⟨left, few, till, leaving⟩ :=
      cycling.fails simulated due sole faulty (s.observed setup) rfl
    rw [← same] at leaving
    exact ⟨_, budget left few, paced_of_leaving rfl leaving⟩
  | overrun stage sole held due full =>
    obtain ⟨next, found, -⟩ := cycling.onTime.exists_tickAfter simulated due
    simp [found] at full
  | advance stage sole held due room within progress =>
    refine ⟨_, ?_, paced_of_cycling stage (cycling.advance simulated due within progress)⟩
    have fewer : s.samples + 1 ≤ (sim.pace setup).durationMs :=
      Nat.le_trans (cycling.onTime.tick simulated due).2.2 (Nat.div_le_self _ _)
    change (sim.pace setup).durationMs - s.rig.now +
      ((sim.pace setup).durationMs - (s.samples + 1)) +
      40 * ((sim.pace setup).durationMs - k) + (20 - point.rank) + 40 < _
    unfold ahead
    omega
  | reconnect stage sole held full =>
    have pending : s.rig.dispatcher.pending .reconnect = true := full
    obtain ⟨later, further⟩ := cycling.reconnect simulated sole pending
    refine ⟨_, ?_, paced_of_cycling stage further⟩
    rw [ahead_succ (cycling.taken simulated pending).2.2]
    change ahead sim setup s (k + 1) + _ + 40 < _
    have := point.rank_le
    omega
  | replace stage sole held full =>
    have pending : s.rig.dispatcher.pending .restart = true := full
    obtain ⟨left, few, renewing⟩ := cycling.replace simulated sole pending
    refine ⟨_, ?_, paced_of_renewing rfl renewing⟩
    rw [ahead_succ (cycling.taken simulated pending).2.2]
    change ahead sim setup s (k + 1) + _ + 40 < _
    have := point.rank_le
    omega
  | @act t after rig heed sole stepped working acted =>
    obtain ⟨later, further, cycling⟩ := cycling.act stepped acted
    refine ⟨_, ?_, paced_of_cycling stage cycling⟩
    have same : ahead sim setup { s with rig } k = ahead sim setup s k := by
      simp only [ahead, acted.now]
    have := later.rank_le
    omega
  | elapse idle least =>
    obtain ⟨later, within, cycling⟩ := cycling.elapse stage idle least
    rw [Nat.max_eq_right (Nat.le_of_lt later)]
    refine ⟨_, ?_, paced_of_cycling stage cycling⟩
    simp only [ahead]
    omega
  | renew other | refuse other | collapse other | conclude other =>
    rw [stage] at other
    cases other

theorem Renewing.shrinks {t : Task} {id k left : Nat} {move : Move}
    (stage : s.stage = .restarting id) (sup : s.Supervised)
    (renewing : Renewing sim setup s t k left)
    (h : Transition setup s move next) :
    ∃ n < ahead sim setup s k + (20 + left) + 40, Paced sim setup next n := by
  cases h with
  | @renew other here sole =>
    obtain rfl : other = t := List.singleton_inj.mp (sole.symm.trans renewing.tasks)
    refine ⟨_, ?_, paced_of_cycling rfl (renewing.renew simulated)⟩
    change ahead sim setup s k + (20 - 3) + 40 < _
    omega
  | refuse here sole unheld exited refusal =>
    rw [simulated.built] at refusal
    cases refusal
  | @collapse other message here sole unheld crashed =>
    obtain rfl : other = t := List.singleton_inj.mp (sole.symm.trans renewing.tasks)
    exact absurd crashed (renewing.retiring.not_crashed _)
  | @act other after rig heed sole stepped working acted =>
    obtain rfl : other = t := List.singleton_inj.mp (sole.symm.trans renewing.tasks)
    obtain ⟨fewer, less, later, renewing⟩ := renewing.act stepped acted
    refine ⟨_, ?_, paced_of_renewing stage renewing⟩
    have same : ahead sim setup { s with rig } k = ahead sim setup s k := by
      simp only [ahead, acted.now]
    omega
  | elapse idle least =>
    obtain ⟨other, sole, -, rfl⟩ := sup.restarting stage
    obtain rfl : other = t := List.singleton_inj.mp (sole.symm.trans renewing.tasks)
    rw [renewing.busy stage] at idle
    cases idle
  | expire other | exceed other | stall other | advance other | overrun other | reconnect other
  | replace other | conclude other =>
    rw [stage] at other
    cases other

omit simulated in
theorem Leaving.shrinks {t : Task} {id left till : Nat} {outcome : Except Failure Unit}
    {move : Move} (stage : s.stage = .closing id outcome) (sup : s.Supervised)
    (leaving : Leaving sim setup s t left till outcome) (h : Transition setup s move next) :
    ∃ n < left + 1, Paced sim setup next n := by
  cases h with
  | @conclude other verdict stopped rig here sole unheld joined =>
    obtain rfl : other = t := List.singleton_inj.mp (sole.symm.trans leaving.tasks)
    obtain ⟨rfl, rfl⟩ := Soak.Stage.closing.inj (here.symm.trans stage)
    obtain ⟨ended, samples⟩ := leaving.conclude joined
    refine ⟨0, Nat.succ_pos _, ?_⟩
    simp only [Paced, ended]
    exact ⟨trivial, samples.trans leaving.probes⟩
  | @act other after rig heed sole stepped working acted =>
    obtain rfl : other = t := List.singleton_inj.mp (sole.symm.trans leaving.tasks)
    obtain ⟨fewer, less, later, leaving⟩ := leaving.act stepped acted
    exact ⟨_, Nat.succ_lt_succ less, paced_of_leaving stage leaving⟩
  | elapse idle least =>
    obtain ⟨other, sole, -, rfl⟩ := sup.closing stage
    obtain rfl : other = t := List.singleton_inj.mp (sole.symm.trans leaving.tasks)
    rcases leaving.busy stage with busy | ⟨dues, later, fewer, less, leaving⟩
    · rw [busy] at idle
      cases idle
    · rw [dues, List.min?_singleton] at least
      cases least
      rw [Nat.max_eq_right (Nat.le_of_lt later)]
      exact ⟨_, Nat.succ_lt_succ less, paced_of_leaving stage leaving⟩
  | expire other | exceed other | stall other | advance other | overrun other | reconnect other
  | replace other | renew other | refuse other | collapse other =>
    rw [stage] at other
    cases other

/-- Every move keeps the pace and brings the run closer to its end. -/
theorem Paced.shrinks {move : Move} (paced : Paced sim setup s m) (sup : s.Supervised)
    (ledger : s.Ledger setup) (h : Transition setup s move next) :
    ∃ n < m, Paced sim setup next n := by
  match stage : s.stage with
  | .selecting =>
    simp only [Paced, stage] at paced
    obtain ⟨id, k, point, cycling, rfl⟩ := paced
    exact cycling.shrinks simulated stage ledger h
  | .restarting id =>
    simp only [Paced, stage] at paced
    obtain ⟨t, k, left, renewing, rfl⟩ := paced
    exact renewing.shrinks simulated stage sup h
  | .closing id outcome =>
    simp only [Paced, stage] at paced
    obtain ⟨t, left, till, leaving, rfl⟩ := paced
    exact leaving.shrinks stage sup h
  | .over result => exact absurd stage (h.not_over sup result)
  | .panicked message => simp [Paced, stage] at paced

theorem Simulated.opening (h : Opening setup s) : ∃ m, Paced sim setup s m := by
  cases h with
  | invalid rejected => simp [simulated.valid] at rejected
  | refused valid refusal =>
    rw [simulated.built] at refusal
    cases refusal
  | panicked valid built beyond =>
    have half := setup.clock.half_le
    have interval := simulated.interval_lt
    omega
  | selecting =>
    have duration := simulated.duration_le
    have half := setup.clock.half_le
    refine ⟨_, 1, 0, .spawned, ⟨⟨?_, .inl ?_, Nat.zero_le _, ?_, Nat.zero_le _, ?_, rfl⟩, ?_, ?_,
      ?_, rfl, rfl⟩, rfl⟩
    · exact Soak.deadlineMs_of_timely (by omega)
    · exact (Nat.one_mul _).symm
    · exact Nat.le_of_eq (Nat.zero_mul _)
    · exact fun i low high => absurd (Nat.le_trans low high) (Nat.not_succ_le_zero 0)
    · exact congrArg (fun t => [t]) (simulated.recruit _ 0)
    · simp [Soak.startedRig, Soak.bareRig, Rig.staffed, desk, Point.counted, Point.posted]
    · exact (Nat.zero_mul _).symm

theorem Simulated.bounded : Soak.Bounded setup (Paced sim setup) where
  shrinks s m move next reach paced stepped :=
    paced.shrinks simulated reach.supervised reach.ledger.1
      (Soak.transition_of_step reach.supervised stepped)
  goes_on s m reach paced going := by
    match stage : s.stage with
    | .selecting => exact .inr (by simp [Soak.dues, Soak.isSelecting, stage])
    | .restarting id =>
      simp only [Paced, stage] at paced
      obtain ⟨t, k, left, renewing, -⟩ := paced
      obtain ⟨other, sole, -, rfl⟩ := reach.supervised.restarting stage
      obtain rfl : other = t := List.singleton_inj.mp (sole.symm.trans renewing.tasks)
      exact .inl (renewing.busy stage)
    | .closing id outcome =>
      simp only [Paced, stage] at paced
      obtain ⟨t, left, till, leaving, -⟩ := paced
      obtain ⟨other, sole, -, rfl⟩ := reach.supervised.closing stage
      obtain rfl : other = t := List.singleton_inj.mp (sole.symm.trans leaving.tasks)
      exact (leaving.busy stage).imp_right fun waits => by simp [waits.1]
    | .over result => simp [Soak.isOver, stage] at going
    | .panicked message => simp [Soak.isOver, stage] at going

theorem Simulated.paced (reach : Reachable setup s) : ∃ m, Paced sim setup s m :=
  reach.induct (fun _ opening => simulated.opening opening) fun _ _ _ reach ⟨_, paced⟩ h =>
    (paced.shrinks simulated reach.supervised reach.ledger.1 h).imp fun _ shrunk => shrunk.2

omit simulated in
variable (sim setup) in
/-- The end of a run as the reference has it. The run fails at the first faulty sample, and
passes where there is none. -/
structure Ends (s : Soak) : Prop where
  fails : ∀ sample, 1 ≤ sample →
    sample * (sim.pace setup).intervalMs < (sim.pace setup).durationMs →
    sim.isFaulty setup sample = true → (∀ i, 1 ≤ i → i < sample → sim.isFaulty setup i = false) →
    s.stage = .over (.error (sim.failureAt setup sample)) ∧ s.samples = sample
  passes : (∀ sample, 1 ≤ sample →
      sample * (sim.pace setup).intervalMs < (sim.pace setup).durationMs →
      sim.isFaulty setup sample = false) →
    s.stage = .over (.ok (sim.report setup)) ∧ s.samples = (sim.pace setup).samples ∧
      (sim.report setup).reconnects + (sim.report setup).restarts = (sim.pace setup).requests
  probes : (History.readings s.rig.trace).length = s.samples

theorem Simulated.ends (reach : Reachable setup s) (ended : s.isOver = true) :
    Ends sim setup s := by
  obtain ⟨m, paced⟩ := simulated.paced reach
  have final : s.stage = .over (sim.outcome setup) ∧ s.samples = sim.probes setup := by
    match stage : s.stage with
    | .over result =>
      simp only [Paced, stage] at paced
      exact ⟨congrArg _ paced.1, paced.2⟩
    | .panicked message => simp [Paced, stage] at paced
    | .selecting | .restarting _ | .closing _ _ => simp [Soak.isOver, stage] at ended
  obtain ⟨stage, samples⟩ := final
  refine ⟨fun sample low early faulty first => ?_, fun sane => ?_, reach.ledger.1.samples.symm⟩
  · have inside : sample ≤ (sim.pace setup).samples :=
      (Nat.le_div_iff_mul_le simulated.interval_pos).mpr (Nat.le_of_lt early)
    obtain ⟨outcome, probes⟩ := outcome_of_faulty first faulty low inside
    rw [stage, samples, outcome, probes]
    exact ⟨rfl, rfl⟩
  · have all : ∀ i, 1 ≤ i → i ≤ (sim.pace setup).samples → sim.isFaulty setup i = false := by
      intro i low high
      have within := (Nat.le_div_iff_mul_le simulated.interval_pos).mp high
      refine sane i low (Nat.lt_of_le_of_ne within fun same => ?_)
      exact simulated.untied.duration_sample ⟨i, same.symm.trans (Nat.mul_comm _ _)⟩
    obtain ⟨outcome, probes⟩ := outcome_of_sane all
    rw [stage, samples, outcome, probes]
    exact ⟨rfl, rfl, requestsOf_add setup _⟩

/-- A run with the simulated controller comes to an end however its moves fall, never waits
before that without something to come, and ends as the reference says. -/
theorem run_follows_reference :
    (∃ bound,
      (∀ moves s, Soak.replay setup (.begin setup) moves = some s → moves.length ≤ bound) ∧
      ∀ fuel, bound < fuel → ∃ s, Soak.run setup fuel = some s ∧ Ends sim setup s) ∧
    ∀ s, Reachable setup s →
      (s.isOver = true → Ends sim setup s) ∧
      (s.isOver = false → ∃ move next, s.step setup move = some next) := by
  obtain ⟨bound, paced⟩ := simulated.paced .begin
  have bounded := simulated.bounded
  refine ⟨⟨bound, fun moves s made => bounded.replay_length .begin paced made, ?_⟩, ?_⟩
  · intro fuel enough
    obtain ⟨s, ran, reach, ended⟩ := bounded.runFrom_ends .begin paced enough .loop
    exact ⟨s, ran, simulated.ends reach ended⟩
  · intro s reach
    refine ⟨simulated.ends reach, fun going => ?_⟩
    obtain ⟨m, paced⟩ := simulated.paced reach
    obtain ⟨after, next, proceeded⟩ := bounded.proceeds reach paced going .loop
    obtain ⟨move, stepped⟩ := Soak.proceed_step proceeded
    exact ⟨move, next, stepped⟩

def brisk : Simulation where
  establishMs := 400

def briskSetup : Setup where
  config :=
    { mode := .reconnectAndRestart
      durationSecs := 5
      sampleIntervalSecs := 2
      settleDelayMs := 300 }
  plan := brisk.plan
  coin i := i % 3 == 0
  readings i := ⟨1000 + i, 5000 * (i + 1)⟩

omit simulated in
theorem simulated_brisk : Simulated brisk briskSetup where
  plan := rfl
  builds := rfl
  fits := by decide
  valid := rfl
  duration := by decide
  interval := by decide
  untied := by
    constructor <;>
      simp only [pace, brisk, briskSetup, Setup.intervalMs, Pace.periodMs] <;> omega

omit simulated in
theorem brisk_run_passes : ∃ fuel s, Soak.run briskSetup fuel = some s ∧
    s.stage = .over (.ok ⟨.reconnectAndRestart, 7, 4, 3, 2, 1001, 10000, 5000⟩) := by
  obtain ⟨⟨bound, -, ran⟩, -⟩ := run_follows_reference simulated_brisk
  obtain ⟨s, ran, ends⟩ := ran (bound + 1) (Nat.lt_succ_self bound)
  have sane : ∀ sample, 1 ≤ sample →
      sample * (brisk.pace briskSetup).intervalMs < (brisk.pace briskSetup).durationMs →
      brisk.isFaulty briskSetup sample = false := by
    intro sample low early
    have few : sample = 1 ∨ sample = 2 := by
      simp only [pace, briskSetup, Setup.intervalMs] at early
      omega
    rcases few with rfl | rfl <;> decide
  exact ⟨bound + 1, s, ran, (ends.passes sane).1⟩

end TunnelSoak.Simulation
