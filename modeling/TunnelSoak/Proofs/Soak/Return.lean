import TunnelSoak.Proofs.Soak.Accounts

/-! How a run whose settings are accepted ends. Its sums are few: the deadline, the next
sample and the counts. None of them leaves its range as long as the sample interval can be
added to the time on the clock, and then the run can only return, with its controllers
stopped. A longer interval is accepted too; it breaks the run off between the start of the
controller and the loop that would stop it. -/
namespace TunnelSoak

open Controller (Task)
open History

namespace Soak

variable {setup : Setup} {s next : Soak} {move : Move}

theorem deadlineMs_lt (setup : Setup) : setup.deadlineMs < setup.clock.endMs := by
  unfold Setup.deadlineMs
  split
  · exact setup.clock.far_lt
  · exact Nat.lt_of_not_le ‹_›

/-- The loop is at work or over, and looks no further ahead than one interval. -/
structure Steady (setup : Setup) (s : Soak) : Prop where
  going : ∀ message, s.stage ≠ .panicked message
  deadline : s.deadline ≤ setup.deadlineMs
  nextTick : s.nextTick ≤ s.rig.now + setup.intervalMs
  restarts : s.restarts ≤ s.rig.lifecycle.starts

theorem Opening.steady (h : Opening setup s) (timely : s.Timely setup) : s.Steady setup := by
  cases h with
  | invalid | refused => exact ⟨nofun, Nat.zero_le _, Nat.zero_le _, Nat.zero_le _⟩
  | panicked valid built beyond =>
    exact absurd (Nat.lt_of_le_of_lt (Nat.le_add_left _ _) timely) (Nat.not_lt_of_le beyond)
  | selecting => exact ⟨nofun, Nat.le_refl _, Nat.le_add_left _ _, Nat.zero_le _⟩

/-- A sample puts the next one an interval after itself, or after the time it was due. -/
theorem nextTick_probed_le (timely : s.Timely setup) (valid : setup.config.validate = .ok ())
    (due : s.nextTick ≤ s.rig.now) :
    (s.probed setup).nextTick ≤ s.rig.now + setup.intervalMs := by
  obtain ⟨base, set, -, upper, -⟩ := timely.exists_probed valid due
  rw [set]
  exact Nat.add_le_add_right upper _

namespace Steady
variable (steady : s.Steady setup)
include steady

theorem carry (going : ∀ message, next.stage ≠ .panicked message)
    (clocks : next.deadline = s.deadline ∧ next.nextTick = s.nextTick)
    (now : s.rig.now ≤ next.rig.now) (restarts : next.restarts ≤ next.rig.lifecycle.starts) :
    next.Steady setup := by
  obtain ⟨deadline, nextTick⟩ := clocks
  refine ⟨going, deadline ▸ steady.deadline, ?_, restarts⟩
  rw [nextTick]
  exact Nat.le_trans steady.nextTick (Nat.add_le_add_right now _)

end Steady

theorem Transition.steady (h : Transition setup s move next) (timely : s.Timely setup)
    (valid : setup.config.validate = .ok ()) (steady : s.Steady setup) : next.Steady setup := by
  have restarts := steady.restarts
  cases h with
  | expire | replace =>
    exact steady.carry nofun ⟨rfl, rfl⟩ (Nat.le_refl _) restarts
  | exceed stage sole held due | stall stage sole held due =>
    exact ⟨nofun, steady.deadline, nextTick_probed_le timely valid due, restarts⟩
  | advance stage sole held due =>
    exact ⟨steady.going, steady.deadline, nextTick_probed_le timely valid due, restarts⟩
  | overrun stage sole held due full => exact absurd full (timely.tickAfter_ne_none valid due)
  | reconnect => exact steady.carry steady.going ⟨rfl, rfl⟩ (Nat.le_refl _) restarts
  | renew => exact steady.carry nofun ⟨rfl, rfl⟩ (Nat.le_refl _) (Nat.succ_le_succ restarts)
  | refuse | collapse => exact steady.carry nofun ⟨rfl, rfl⟩ (Nat.le_refl _) restarts
  | @conclude t outcome stopped rig stage sole unheld joined =>
    cases joined <;> cases outcome <;>
      exact steady.carry nofun ⟨rfl, rfl⟩ (Nat.le_refl _) restarts
  | act sole stepped working acted =>
    refine steady.carry steady.going ⟨rfl, rfl⟩ (Nat.le_of_eq acted.now.symm) ?_
    rw [acted.lifecycle]
    exact restarts
  | elapse => exact steady.carry steady.going ⟨rfl, rfl⟩ (Nat.le_max_left _ _) restarts

theorem Reachable.steady (reach : Reachable setup s) (valid : setup.config.validate = .ok ())
    (timely : s.Timely setup) : s.Steady setup :=
  reach.induct_timely (fun _ h => h.steady) (fun _ _ _ _ timely ih h => h.steady timely valid ih)
    timely

/-- The state of a run that can end in no other way than by returning. -/
structure Returns (setup : Setup) (s : Soak) : Prop where
  interval : 0 < setup.intervalMs
  deadline : s.deadline < setup.clock.endMs
  nextTick : s.nextTick < setup.clock.endMs
  /-- No count goes beyond the number of events. -/
  counts : s.samples ≤ s.rig.trace.length ∧ s.reconnects ≤ s.rig.trace.length ∧
    s.restarts ≤ s.rig.trace.length ∧ s.rig.lifecycle.starts ≤ s.rig.trace.length ∧
    s.rig.dispatcher.tracker.established ≤ s.rig.trace.length
  unpanicked : ∀ message, s.stage ≠ .panicked message
  /-- A run that is over has returned, and each of its controllers has come to its end. -/
  returned : s.isOver = true →
    ∃ result, s.stage = .over result ∧ unfinished s.rig.trace = [] ∧
      (crashes s.rig.trace = [] → s.rig.counters.live = 0) ∧
      ∀ e ∈ s.rig.trace, ∀ controller start, e.event = .controllerStarted controller start →
        (∃ d ∈ s.rig.trace, ∃ announced, d.event = .controllerExited controller announced) ∨
          controller ∈ crashes s.rig.trace

/-- No accepted run panics as long as the clock has room for one interval more. -/
theorem accepted_run_returns (reach : Reachable setup s)
    (valid : setup.config.validate = .ok ()) (timely : s.Timely setup) : Returns setup s := by
  have steady := reach.steady valid timely
  obtain ⟨ledger, -⟩ := reach.ledger
  obtain ⟨-, roster, tallied⟩ := reach.accounts
  have starts : s.rig.lifecycle.starts ≤ s.rig.trace.length :=
    roster.starts ▸ List.length_filterMap_le _ _
  refine
    { interval := interval_pos valid
      deadline := Nat.lt_of_le_of_lt steady.deadline (deadlineMs_lt setup)
      nextTick := Nat.lt_of_le_of_lt steady.nextTick timely
      counts := ⟨?_, ?_, Nat.le_trans steady.restarts starts, starts, ?_⟩
      unpanicked := steady.going
      returned := ?_ }
  · rw [ledger.samples, readings, List.length_reverse]
    exact List.length_filterMap_le _ _
  · rw [← tallied.sent]
    exact List.countP_le_length
  · rw [ledger.tracker]
    exact List.countP_le_length
  · intro ended
    obtain ⟨result, finished⟩ : ∃ result, s.stage = .over result :=
      (isOver_cases ended).resolve_right (not_exists.mpr steady.going)
    have vacant := (reach.supervised.over finished).1
    have unfinished : unfinished s.rig.trace = [] := by
      rw [reach.attended.unfinished, vacant]
      rfl
    refine ⟨result, finished, unfinished, fun unharmed => ?_,
      fun e he controller start started => ?_⟩
    · have none := strays_le_crashes s.rig.trace
      rw [unharmed] at none
      rw [reach.attended.live, vacant, Nat.le_zero.mp none]
      rfl
    rcases started_cases ⟨e, he, started⟩ with working | ended
    · rw [unfinished] at working
      cases working
    · exact ended

/-- A run for ever, as far as 64 bits go; its controller never establishes a tunnel. -/
def boundless : Setup where
  config := { durationSecs := Nat.pow 2 64 - 1, settleDelayMs := Nat.pow 2 64 - 1 }
  plan := { refusal _ := none, script _ := {} }
  coin _ := false
  readings _ := ⟨0, 0⟩

theorem boundless_run_returns : ∃ s, s.stage = .over (.error (.stalled 0 0)) ∧
    Returns boundless s := by
  obtain ⟨s, made, ended⟩ : ∃ s, replay boundless (begin boundless)
      [.act 1 true, .act 1 true, .elapse, .tick, .act 1 true, .act 1 true, .join] = some s ∧
      s.stage = .over (.error (.stalled 0 0)) ∧ s.rig.now = 10000 := ⟨_, rfl, rfl, rfl⟩
  have timely : s.Timely boundless := by
    rw [Timely, ended.2]
    decide
  exact ⟨s, ended.1, accepted_run_returns (Reachable.begin.replay made) rfl timely⟩

def unsampled : Setup where
  config := { durationSecs := 1, sampleIntervalSecs := Nat.pow 2 64 - 1 }
  plan := Simulation.plan { establishMs := 2000 }
  coin _ := false
  readings _ := ⟨0, 0⟩

/-- An interval that the clock cannot count is accepted. It breaks the run off and leaves the
controller at work. -/
theorem unsampled_run_breaks_off : unsampled.config.validate = .ok () ∧
    ∃ s, Reachable unsampled s ∧ s.isOver = true ∧ (∀ result, s.stage ≠ .over result) ∧
      unfinished s.rig.trace = [1] :=
  ⟨rfl, begin unsampled, .begin, rfl, nofun, rfl⟩

end Soak

end TunnelSoak
