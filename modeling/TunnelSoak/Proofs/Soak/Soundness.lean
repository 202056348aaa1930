import TunnelSoak.Proofs.Soak.Supervision
import TunnelSoak.Proofs.Soak.Verdict

/-! What a passed run is good for. A run that passes has met no fatal event, so all its
samples were within the ceiling and saw progress; it has lasted for its duration, and
no controller of it has panicked. The report sums up exactly this run. -/
namespace TunnelSoak

open Controller (Task)
open History

namespace History

theorem firstFatal?_cons_eq_none {ceiling : Nat} {e : Entry} {h : History} :
    firstFatal? ceiling (e :: h) = none ↔
      firstFatal? ceiling h = none ∧ fatal? ceiling h e.event = none := by
  rw [firstFatal?, Option.or_eq_none_iff]

section clean
variable {ceiling : Nat} {h : History} (clean : firstFatal? ceiling h = none)
include clean

theorem reading_within : ∀ reading ∈ readings h, reading.system ≤ ceiling := by
  induction h with
  | nil => simp [readings]
  | cons e h ih =>
    obtain ⟨before, harmless⟩ := firstFatal?_cons_eq_none.mp clean
    intro reading mem
    rw [readings_cons, List.mem_append] at mem
    rcases mem with mem | mem
    · exact ih before reading mem
    · rcases e with ⟨time, event⟩
      cases event <;> simp [Event.reading?] at mem
      subst mem
      simpa [fatal?] using harmless

theorem construction_succeeded : ∀ e ∈ h, e.event.isConstruction = true →
    ∃ controller start, e.event = .controllerStarted controller start := by
  induction h with
  | nil => simp
  | cons e h ih =>
    obtain ⟨before, harmless⟩ := firstFatal?_cons_eq_none.mp clean
    intro d mem construction
    rcases List.mem_cons.mp mem with rfl | mem
    · rcases d with ⟨time, event⟩
      cases event <;> simp [Event.isConstruction, fatal?] at construction harmless ⊢
    · exact ih before d mem construction

theorem snapshots_increase :
    (0 :: snapshots h).Pairwise (· < ·) ∧ ∀ n ∈ 0 :: snapshots h, n ≤ lastSnapshot h := by
  induction h with
  | nil => simp [snapshots, observations, lastSnapshot]
  | cons e h ih =>
    obtain ⟨before, harmless⟩ := firstFatal?_cons_eq_none.mp clean
    obtain ⟨increasing, bounded⟩ := ih before
    rcases e with ⟨time, event⟩
    cases event with
    | sampled tick tunnels reading =>
      have progress : lastSnapshot h < tunnels := by simpa [fatal?] using harmless
      have shown : 0 :: snapshots (⟨time, .sampled tick tunnels reading⟩ :: h) =
          (0 :: snapshots h) ++ [tunnels] := by
        unfold snapshots
        rw [observations_cons, List.map_append]
        rfl
      have below : ∀ n ∈ 0 :: snapshots h, n < tunnels :=
        fun n hn => Nat.lt_of_le_of_lt (bounded n hn) progress
      rw [shown]
      refine ⟨List.pairwise_append.mpr ⟨increasing, List.pairwise_singleton _ _, ?_⟩, ?_⟩
      · simpa using below
      · intro n hn
        rcases List.mem_append.mp hn with hn | hn
        · exact Nat.le_of_lt (below n hn)
        · exact Nat.le_of_eq (List.mem_singleton.mp hn)
    | _ =>
      simp only [snapshots, observations_cons, Event.observation?, Option.toList_none,
        List.append_nil]
      exact ⟨increasing, bounded⟩

end clean

theorem observations_in_order {ceiling : Nat} {h : History}
    (orderly : Throughout (Orderly ceiling) h) :
    (observations h).map (·.1) = List.range' 1 (observations h).length ∧
      (observations h).map (·.2.2) = (readings h).take (observations h).length ∧
      (observations h).length ≤ (readings h).length := by
  induction h with
  | nil => simp [observations, readings]
  | cons e h ih =>
    obtain ⟨place, before⟩ := orderly
    obtain ⟨numbered, shown, fewer⟩ := ih before
    rcases e with ⟨time, event⟩
    cases event with
    | memoryRead reading =>
      have seen : observations (⟨time, .memoryRead reading⟩ :: h) = observations h := by
        rw [observations_cons]
        exact List.append_nil _
      rw [seen, readings_cons, List.take_append_of_le_length fewer, List.length_append]
      exact ⟨numbered, shown, Nat.le_add_right_of_le fewer⟩
    | sampled tick tunnels reading =>
      obtain ⟨here, next, last, -, -, -⟩ := place
      have taken : readings (⟨time, .sampled tick tunnels reading⟩ :: h) = readings h := by
        rw [readings_cons]
        exact List.append_nil _
      have seen : observations (⟨time, .sampled tick tunnels reading⟩ :: h) =
          observations h ++ [(tick, tunnels, reading)] := observations_cons _ _
      have all : (observations h).length + 1 = (readings h).length := next.symm.trans here
      rw [seen, taken, List.map_append, List.map_append, List.length_append, numbered, shown]
      refine ⟨?_, ?_, Nat.le_of_eq all⟩
      · rw [next, Nat.add_comm _ 1, List.length_singleton, Nat.add_comm 1, List.range'_concat,
          Nat.one_mul, Nat.add_comm 1]
        rfl
      · obtain ⟨front, split⟩ := List.getLast?_eq_some_iff.mp last
        have length : (observations h).length = front.length := by
          rw [split, List.length_append] at all
          exact Nat.succ.inj all
        rw [List.length_singleton, all, List.take_length, length, split]
        simp
    | _ =>
      simp only [readings_cons, observations_cons, Event.observation?, Event.reading?,
        Option.toList_none, List.append_nil]
      exact ⟨numbered, shown, fewer⟩

end History

namespace Rig

def harmed (tasks : List Task) : List Nat := (tasks.filter Task.hasCrashed).map Task.id

theorem harmed_sole (t : Task) : harmed [t] = if t.hasCrashed then [t.id] else [] := by
  unfold harmed
  cases crashed : t.hasCrashed <;> simp [crashed]

theorem harmed_same {t after : Task} (id : after.id = t.id)
    (crashed : after.hasCrashed = t.hasCrashed) : harmed [after] = harmed [t] := by
  rw [harmed_sole, harmed_sole, id, crashed]

end Rig

namespace Soak

structure Sound (setup : Setup) (h : History) (report : Report) : Prop where
  /-- No construction failed. -/
  built : ∀ e ∈ h, e.event.isConstruction = true →
    ∃ controller start, e.event = .controllerStarted controller start
  /-- Every controller that was started has exited. -/
  exited : ∀ e ∈ h, ∀ controller start, e.event = .controllerStarted controller start →
    ∃ d ∈ h, ∃ announced, d.event = .controllerExited controller announced
  unharmed : crashes h = []
  samples : report.samples = (readings h).length
  drawn : readings h = (List.range report.samples).map setup.readings
  within : ∀ reading ∈ readings h, reading.system ≤ setup.config.maxSysMemory
  /-- The observer was shown every sample once, in order. -/
  numbered : (observations h).map (·.1) = List.range' 1 report.samples
  shown : (observations h).map (·.2.2) = readings h
  /-- What it was shown as the count is the number of establishments by then. -/
  counted : ∀ after time tick tunnels reading before,
    h = after ++ ⟨time, .sampled tick tunnels reading⟩ :: before → tunnels = establishments before
  increasing : (0 :: snapshots h).Pairwise (· < ·)
  bounded : ∀ tunnels ∈ snapshots h, tunnels ≤ report.tunnelsEstablished
  established : report.tunnelsEstablished = establishments h
  peak : report.peakSystemMemory = History.peak h
  lastCumulative : report.lastCumulativeAllocated = History.lastCumulative h
  lasted : setup.config.durationSecs * 1000 ≤ report.elapsedMs

/-- The deadline is as it was set, the run passes only at it, and its report is the summary. -/
def Clocked (setup : Setup) (s : Soak) : Prop :=
  match s.stage with
  | .selecting => s.deadline = setup.deadlineMs
  | .restarting _ => s.deadline = setup.deadlineMs
  | .closing _ (.ok ()) => setup.deadlineMs ≤ s.rig.now
  | .over (.ok report) => report = s.report ∧ setup.deadlineMs ≤ s.rig.now
  | _ => True

/-- While nothing has failed, a controller that panicked is still there. -/
def Unharmed (s : Soak) : Prop :=
  s.stage.hasFailed = false → crashes s.rig.trace = Rig.harmed s.rig.tasks

theorem Opening.clocked {setup : Setup} {s : Soak} (h : Opening setup s) :
    s.Clocked setup ∧ s.Unharmed := by
  cases h with
  | invalid => exact ⟨trivial, fun _ => rfl⟩
  | refused => exact ⟨trivial, nofun⟩
  | panicked => exact ⟨trivial, fun _ => rfl⟩
  | selecting => exact ⟨rfl, fun _ => rfl⟩

section Transition
variable {setup : Setup} {s next : Soak} {move : Move}

theorem Clocked.carry (clocked : s.Clocked setup) (running : ∀ result, s.stage ≠ .over result)
    (stage : next.stage = s.stage) (deadline : next.deadline = s.deadline)
    (now : s.rig.now ≤ next.rig.now) : next.Clocked setup := by
  unfold Clocked at clocked ⊢
  rw [stage]
  split at clocked
  · exact deadline.trans clocked
  · exact deadline.trans clocked
  · exact Nat.le_trans clocked now
  · exact absurd ‹s.stage = _› (running _)
  · trivial

theorem Transition.clocked (h : Transition setup s move next) (sup : s.Supervised)
    (clocked : s.Clocked setup) : next.Clocked setup := by
  have running := h.not_over sup
  cases h with
  | act sole stepped working acted =>
    exact clocked.carry running rfl rfl (Nat.le_of_eq acted.now.symm)
  | elapse => exact clocked.carry running rfl rfl (Nat.le_max_left _ _)
  | advance | reconnect => exact clocked.carry running rfl rfl (Nat.le_refl _)
  | replace stage | renew stage => simpa only [Clocked, stage] using clocked
  | exceed | stall | overrun | refuse | collapse => trivial
  | expire stage sole held due =>
    simp only [Clocked, stage] at clocked
    exact clocked ▸ due
  | @conclude t outcome stopped rig stage sole unheld joined =>
    simp only [Clocked, stage] at clocked
    cases outcome with
    | error => trivial
    | ok =>
      cases joined with
      | exited => exact ⟨rfl, clocked⟩
      | crashed => trivial

theorem Transition.unharmed (h : Transition setup s move next) (unharmed : s.Unharmed) :
    next.Unharmed := by
  intro good
  cases h with
  | act sole stepped working acted =>
    have before := unharmed good
    have sound := Task.not_hasCrashed working
    rw [sole, Rig.harmed_sole, sound] at before
    change crashes _ = Rig.harmed _
    rw [acted.crashes, acted.tasks, Rig.harmed_sole, before, acted.kept.id]
    rfl
  | elapse => exact unharmed good
  | exceed | stall | refuse | collapse => cases good
  | @expire t stage sole | @replace t stage sole =>
    have before := unharmed (by rw [stage]; rfl)
    rw [sole] at before
    refine (crashes_pass rfl).trans (before.trans ?_)
    exact (Rig.harmed_same t.cancel_id t.cancel_hasCrashed).symm
  | @reconnect t stage sole =>
    have before := unharmed (by rw [stage]; rfl)
    rw [sole] at before
    refine (crashes_pass rfl).trans ((crashes_pass rfl).trans (before.trans ?_))
    exact (Rig.harmed_same t.terminate_id t.terminate_hasCrashed).symm
  | overrun stage => exact unharmed (by rw [stage]; rfl)
  | advance stage =>
    have before := unharmed (by rw [stage]; rfl)
    exact (crashes_pass rfl).trans ((crashes_pass rfl).trans ((crashes_pass rfl).trans before))
  | renew stage sole unheld exited =>
    have before := unharmed (by rw [stage]; rfl)
    rw [sole, Rig.harmed_sole, Task.hasCrashed, exited] at before
    exact (crashes_pass rfl).trans ((crashes_pass rfl).trans before)
  | @conclude t outcome stopped rig stage sole unheld joined =>
    cases outcome with
    | error => cases good
    | ok =>
      have before := unharmed (by rw [stage]; rfl)
      cases joined with
      | crashed => cases good
      | exited exited =>
        rw [sole, Rig.harmed_sole, Task.hasCrashed, exited] at before
        exact (crashes_pass rfl).trans ((crashes_pass rfl).trans before)

end Transition

theorem Reachable.clocked {setup : Setup} {s : Soak} (reach : Reachable setup s) :
    s.Clocked setup ∧ s.Unharmed :=
  reach.induct (fun _ h => h.clocked) fun _ _ _ reach ih h =>
    ⟨h.clocked reach.supervised ih.1, h.unharmed ih.2⟩

/-- A run that passes is as good as its report says. -/
theorem pass_is_sound {setup : Setup} {s : Soak} {report : Report} (reach : Reachable setup s)
    (valid : setup.config.validate = .ok ()) (timely : setup.config.durationSecs < Nat.pow 2 62)
    (passed : s.stage = .over (.ok report)) : Sound setup s.rig.trace report := by
  obtain ⟨ledger, paired⟩ := reach.ledger
  obtain ⟨clocked, unharmed⟩ := reach.clocked
  have deadline : setup.deadlineMs = setup.config.durationSecs * 1000 :=
    deadlineMs_of_timely (Nat.lt_of_lt_of_le
      (Nat.mul_lt_mul_of_pos_right timely (by decide)) setup.clock.half_le)
  have clean : firstFatal? setup.config.maxSysMemory s.rig.trace = none := by
    simpa only [Judged, passed] using (reach.judged valid).1
  simp only [Clocked, passed] at clocked
  obtain ⟨rfl, late⟩ := clocked
  have vacant := (reach.supervised.over passed).1
  have unfinished : unfinished s.rig.trace = [] := by
    rw [reach.attended.unfinished, vacant]
    rfl
  have harmless : crashes s.rig.trace = [] := by
    have same := unharmed (by rw [passed]; rfl)
    rw [vacant] at same
    exact same
  have looks : (observations s.rig.trace).length = s.samples := paired (by rw [passed]; rfl)
  obtain ⟨numbered, shown, -⟩ := observations_in_order ledger.orderly
  rw [looks] at numbered shown
  obtain ⟨increasing, highest⟩ := snapshots_increase clean
  refine
    { built := construction_succeeded clean, exited := ?_, unharmed := harmless
      samples := ledger.samples, drawn := ledger.drawn, within := reading_within clean
      numbered, shown := ?_, counted := ?_, increasing, bounded := ?_
      established := ledger.tracker, peak := ledger.peak
      lastCumulative := ledger.lastCumulative, lasted := deadline ▸ late }
  · intro e he controller start started
    rcases started_cases ⟨e, he, started⟩ with working | exited | crashed
    · rw [unfinished] at working
      cases working
    · exact exited
    · rw [harmless] at crashed
      cases crashed
  · rw [shown, ledger.samples, List.take_length]
  · intro after time tick tunnels reading before split
    have orderly := ledger.orderly
    rw [split] at orderly
    exact orderly.at.2.2.2.2.1
  · intro tunnels mem
    have low := highest tunnels (List.mem_cons_of_mem _ mem)
    exact Nat.le_trans low (Nat.le_trans ledger.bounded (Nat.le_of_eq ledger.tracker.symm))

/-- A controller that establishes one tunnel, in time for the only sample. -/
def calm : Setup where
  config := { durationSecs := 3, sampleIntervalSecs := 2, settleDelayMs := 0 }
  plan := { refusal _ := none, script _ := { run := [.emit (Simulation.tunnelsNotice 1)] } }
  coin _ := false
  readings _ := ⟨7, 9⟩

theorem calm_run_sound :
    ∃ s : Soak, s.stage = .over (.ok ⟨.reconnectTunnel, 1, 1, 0, 1, 7, 9, 3000⟩) ∧
      Sound calm s.rig.trace ⟨.reconnectTunnel, 1, 1, 0, 1, 7, 9, 3000⟩ := by
  obtain ⟨s, made, passed⟩ : ∃ s, replay calm (begin calm)
      [.act 1 true, .act 1 true, .act 1 true, .reconnect, .elapse, .tick, .elapse, .deadline,
        .act 1 true, .act 1 true, .join] = some s ∧
      s.stage = .over (.ok ⟨.reconnectTunnel, 1, 1, 0, 1, 7, 9, 3000⟩) := ⟨_, rfl, rfl⟩
  exact ⟨s, passed, pass_is_sound (Reachable.begin.replay made) rfl (by decide) passed⟩

end Soak

end TunnelSoak
