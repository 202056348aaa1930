import TunnelSoak.Proofs.Simulation.Stance
import TunnelSoak.Proofs.Soak.Accounts

/-! The simulated controller and the run loop hand each other one thing at a time. A tunnel
posts one request and parks; the loop takes the request and wakes the controller or
replaces it, and only then comes the next tunnel. So there is always room for a request,
in whatever order the two of them act and whenever the run is broken off. -/
namespace TunnelSoak

open Controller (Task)
open Dispatcher (dropped)
open History

def Soak.Stage.isStopping : Soak.Stage → Bool
  | .restarting _ => true
  | .closing _ _ => true
  | _ => false

namespace Simulation

/-- The controller's stance fits what the loop has done so far. A restart takes its request while
the controller that made it is still there. -/
structure Attuned (sim : Simulation) (s : Soak) : Prop where
  stance : ∀ t ∈ s.rig.tasks,
    Stance sim (s.rig.dispatcher.requests + s.stage.isRestarting.toNat) s.rig.counters.terminations
      s.reconnects t
  cancelled : ∀ t ∈ s.rig.tasks, t.cancelled = s.stage.isStopping
  requests : s.rig.dispatcher.requests ≤ 1
  terminations : s.rig.counters.terminations ≤ s.reconnects
  undropped : dropped (results s.rig.trace) = 0

variable {sim : Simulation} {setup : Setup} {s next : Soak} {t : Task}

namespace Attuned

theorem sole (tasks : s.rig.tasks = [t])
    (stance : Stance sim (s.rig.dispatcher.requests + s.stage.isRestarting.toNat)
      s.rig.counters.terminations s.reconnects t)
    (cancelled : t.cancelled = s.stage.isStopping)
    (undropped : dropped (results s.rig.trace) = 0) : Attuned sim s := by
  have single := stance.single
  refine ⟨?_, ?_, ?_, stance.terminations_le, undropped⟩
  · rw [tasks, List.forall_mem_singleton]
    exact stance
  · rw [tasks, List.forall_mem_singleton]
    exact cancelled
  · omega

theorem vacant (tasks : s.rig.tasks = []) (requests : s.rig.dispatcher.requests ≤ 1)
    (terminations : s.rig.counters.terminations ≤ s.reconnects)
    (undropped : dropped (results s.rig.trace) = 0) : Attuned sim s := by
  refine ⟨?_, ?_, requests, terminations, undropped⟩ <;>
    · intro u mem
      rw [tasks] at mem
      cases mem

theorem of_sole (attuned : Attuned sim s) (tasks : s.rig.tasks = [t]) :
    Stance sim (s.rig.dispatcher.requests + s.stage.isRestarting.toNat) s.rig.counters.terminations
      s.reconnects t ∧ t.cancelled = s.stage.isStopping := by
  obtain ⟨stance, cancelled, -⟩ := attuned
  rw [tasks, List.forall_mem_singleton] at stance cancelled
  exact ⟨stance, cancelled⟩

end Attuned

theorem attuned_of_opening (plan : setup.plan = sim.plan) (fits : sim.Fits)
    (h : Soak.Opening setup s) : Attuned sim s := by
  cases h with
  | invalid | refused => exact .vacant rfl (Nat.zero_le _) (Nat.zero_le _) rfl
  | panicked | selecting =>
    apply Attuned.sole (t := (Soak.startedRig setup).recruit setup.plan) rfl _ rfl rfl
    rw [recruit_pose plan fits]
    exact .cycling .spawned _ _ _ _ rfl (Nat.zero_le _)

theorem attuned_of_transition {move : Soak.Move} (plan : setup.plan = sim.plan)
    (fits : sim.Fits) (h : Soak.Transition setup s move next)
    (isOpen : s.rig.dispatcher.closed = false) (attuned : Attuned sim s) : Attuned sim next := by
  cases h with
  | expire stage sole | exceed stage sole | stall stage sole =>
    obtain ⟨stance, -⟩ := attuned.of_sole sole
    rw [stage] at stance
    exact .sole rfl stance.cancel rfl attuned.undropped
  | advance =>
    exact ⟨attuned.stance, attuned.cancelled, attuned.requests, attuned.terminations,
      attuned.undropped⟩
  | @overrun t stage sole =>
    obtain ⟨stance, cancelled⟩ := attuned.of_sole sole
    rw [stage] at stance cancelled
    exact .sole sole stance cancelled attuned.undropped
  | @reconnect t stage sole held full =>
    obtain ⟨stance, cancelled⟩ := attuned.of_sole sole
    have took : (s.rig.dispatcher.take .reconnect).2.requests + 1 = s.rig.dispatcher.requests :=
      Dispatcher.requests_take full
    have single := attuned.requests
    -- it was the only request, so the controller's next tunnel finds the slots empty
    have one : s.rig.dispatcher.requests = 1 := by omega
    have none : (s.rig.dispatcher.take .reconnect).2.requests = 0 := by omega
    rw [one, stage] at stance
    apply Attuned.sole (t := t.terminate) rfl
    · change Stance sim ((s.rig.dispatcher.take .reconnect).2.requests + s.stage.isRestarting.toNat)
        _ _ _
      rw [none, stage]
      exact stance.terminate
    · rw [t.terminate_kept.cancelled]
      exact cancelled
    · exact attuned.undropped
  | @replace t stage sole held full =>
    have stance := (attuned.of_sole sole).1.cancel
    have took : (s.rig.dispatcher.take .restart).2.requests + 1 = s.rig.dispatcher.requests :=
      Dispatcher.requests_take full
    rw [stage, ← took] at stance
    exact .sole rfl stance rfl attuned.undropped
  | @renew t stage sole unheld exited =>
    obtain ⟨stance, -⟩ := attuned.of_sole sole
    rw [stage] at stance
    -- the request that the old controller made is the one this restart has taken
    have none : s.rig.dispatcher.requests = 0 :=
      Nat.le_zero.mp (Nat.le_of_succ_le_succ (stance.exited exited))
    have fresh := recruit_pose plan fits (s.rig.vacated (.controllerStopped t.id))
    refine .sole rfl ?_ ?_ attuned.undropped
    · rw [fresh]
      exact .cycling .spawned _ _ _ _ none attuned.terminations
    · rw [fresh]
      rfl
  | refuse =>
    exact .vacant rfl attuned.requests attuned.terminations attuned.undropped
  | collapse =>
    exact .vacant rfl attuned.requests attuned.terminations attuned.undropped
  | @conclude t outcome stopped rig stage sole unheld joined =>
    cases joined <;> cases outcome <;>
      exact .vacant rfl attuned.requests attuned.terminations attuned.undropped
  | @act t after rig heed sole stepped working acted =>
    obtain ⟨mid, e, ran, ⟨ends, later, handled, tasks, recorded⟩, terminations⟩ :=
      Rig.worked setup.coin sole stepped
    obtain ⟨before, cancelled⟩ := attuned.of_sole sole
    obtain ⟨stance, undropped⟩ := Stance.handled handled isOpen ran before
    rw [← terminations] at stance
    refine .sole tasks stance ?_ ?_
    · have same : later = after := (List.cons.inj (tasks.symm.trans acted.tasks)).1
      rw [same, acted.kept.cancelled]
      exact cancelled
    · rw [recorded, undropped]
      exact attuned.undropped
  | elapse =>
    exact ⟨attuned.stance, attuned.cancelled, attuned.requests, attuned.terminations,
      attuned.undropped⟩

theorem attuned_of_reachable (plan : setup.plan = sim.plan) (fits : sim.Fits)
    (reach : Soak.Reachable setup s) : Attuned sim s :=
  reach.induct (fun _ h => attuned_of_opening plan fits h) fun _ _ _ reach attuned h =>
    attuned_of_transition plan fits h reach.accounts.1.isOpen attuned

/-- Every tunnel's request is in one place, and there is room for the next. -/
structure Handshake (s : Soak) : Prop where
  counted : s.rig.dispatcher.tracker.established = establishments s.rig.trace
  established : s.rig.dispatcher.tracker.established =
    (taken s.rig.trace).length + s.rig.dispatcher.requests + s.rig.tasks.countP Task.isSettling
  single : s.rig.dispatcher.requests + s.rig.tasks.countP Task.isSettling ≤ 1
  undropped : ∀ request, .dropped request ∉ results s.rig.trace
  /-- A tunnel that waits has its request pending, unless its controller is being stopped. -/
  answered : ∀ t ∈ s.rig.tasks, t.stage = .parked →
    s.rig.dispatcher.requests = 1 ∨ t.cancelled = true ∧ s.stage.isStopping = true
  report : ∀ report, s.stage = .over (.ok report) →
    report.tunnelsEstablished ≤ report.reconnects + report.restarts + 1 ∧
      report.reconnects + report.restarts ≤ report.tunnelsEstablished ∧
      s.rig.counters.terminations ≤ report.reconnects

/-- Neither the loop nor the simulated controller ever loses an action of the other. -/
theorem no_action_is_lost (plan : setup.plan = sim.plan) (fits : sim.Fits)
    (reach : Soak.Reachable setup s) : Handshake s := by
  obtain ⟨stance, cancelled, requests, terminations, undropped⟩ :=
    attuned_of_reachable plan fits reach
  obtain ⟨accounts, -, tallied⟩ := reach.accounts
  have established := accounts.balanced.whereabouts accounts.isOpen
  rw [undropped] at established
  have single : s.rig.dispatcher.requests + s.rig.tasks.countP Task.isSettling ≤ 1 := by
    rcases reach.supervised.tasks with vacant | ⟨t, sole⟩
    · rw [vacant]
      exact requests
    · rw [sole, List.forall_mem_singleton] at stance
      rw [sole, Rig.countP_isSettling_sole]
      have single := stance.single
      omega
  refine
    { counted := reach.ledger.1.tracker, established, single
      undropped := Dispatcher.not_mem_of_dropped undropped
      answered := ?_, report := ?_ }
  · intro t mem parked
    have outstanding := (stance t mem).answered parked
    have stopping := cancelled t mem
    cases restarting : s.stage.isRestarting with
    | false =>
      rw [restarting] at outstanding
      exact .inl outstanding
    | true =>
      have halts : s.stage.isStopping = true := by
        revert restarting
        cases s.stage <;> simp [Soak.Stage.isRestarting, Soak.Stage.isStopping]
      exact .inr ⟨stopping.trans halts, halts⟩
  · intro report passed
    have clocked := reach.clocked.1
    simp only [Soak.Clocked, passed] at clocked
    obtain ⟨rfl, -⟩ := clocked
    have vacant := (reach.supervised.over passed).1
    have restarts := tallied.restarts (by rw [passed]; rfl)
    have served := Request.length_eq_count (taken s.rig.trace)
    rw [passed] at restarts
    rw [tallied.reconnects, restarts] at served
    rw [vacant, served] at established
    change s.rig.dispatcher.tracker.established ≤ s.reconnects + s.restarts + 1 ∧
      s.reconnects + s.restarts ≤ s.rig.dispatcher.tracker.established ∧ _ ≤ s.reconnects
    simp only [List.countP_nil, Soak.Stage.isRestarting, Bool.toNat_false] at established
    omega

/-- The first tunnel's request is taken before its controller waits for it, and the deadline
comes while the second tunnel settles. -/
def hasty : Setup where
  config := { durationSecs := 1, sampleIntervalSecs := 2, settleDelayMs := 100 }
  plan := plan { establishMs := 400 }
  coin _ := false
  readings _ := ⟨0, 0⟩

theorem hasty_run_loses_none :
    ∃ s : Soak, s.stage = .over (.ok ⟨.reconnectTunnel, 2, 1, 0, 0, 0, 0, 1000⟩) ∧
      s.rig.dispatcher.requests = 1 ∧ Handshake s := by
  obtain ⟨s, made, passed, left⟩ : ∃ s, Soak.replay hasty (Soak.begin hasty)
      [.act 1 true, .act 1 true, .elapse, .act 1 true, .act 1 true, .act 1 true, .elapse,
        .act 1 true, .reconnect, .act 1 true, .act 1 true, .act 1 true, .act 1 true, .act 1 true,
        .elapse, .act 1 true, .act 1 true, .act 1 true, .elapse, .deadline, .act 1 true,
        .act 1 true, .act 1 true, .act 1 true, .act 1 true, .act 1 true, .join] = some s ∧
      s.stage = .over (.ok ⟨.reconnectTunnel, 2, 1, 0, 0, 0, 0, 1000⟩) ∧
      s.rig.dispatcher.requests = 1 := ⟨_, rfl, rfl, rfl⟩
  exact ⟨s, passed, left, no_action_is_lost rfl (by decide) (Soak.Reachable.begin.replay made)⟩

end Simulation

end TunnelSoak
