import TunnelSoak.Proofs.Rig.Deliveries
import TunnelSoak.Proofs.Rig.Roster
import TunnelSoak.Proofs.Soak.Soundness

/-! The accounts of a run. The tracker, the slots, the counts of the loop and the counts
of the factory are kept in different places and move at different moments; they agree
because each of them is what the trace gives, all controllers of the run together. -/
namespace TunnelSoak

open Controller (Task)
open Dispatcher (posted dropped)
open History

namespace Event

/-- Events on which no account of requests depends. -/
def isPlain : Event → Bool
  | .dispatched _ => false
  | .requestTaken _ => false
  | .terminateSent _ => false
  | _ => true

end Event

namespace History

section isPlain
variable {events h : History} (plain : ∀ e ∈ events, e.event.isPlain = true)
include plain

theorem results_plain : results (events ++ h) = results h := by
  apply filterMap_pass
  intro e he
  have := plain e he
  revert this
  cases e.event <;> simp [Event.isPlain, Event.result?]

theorem taken_plain : taken (events ++ h) = taken h := by
  apply filterMap_pass
  intro e he
  have := plain e he
  revert this
  cases e.event <;> simp [Event.isPlain, Event.taken?]

theorem terminates_plain : terminates (events ++ h) = terminates h := by
  apply countP_pass
  intro e he
  have := plain e he
  revert this
  cases e.event <;> simp [Event.isPlain, Event.isTerminate]

end isPlain

end History

namespace Rig

/-- The accounts that do not depend on the loop. -/
structure Accounts (rig : Rig) : Prop where
  balanced : rig.dispatcher.Balanced (results rig.trace) (History.taken rig.trace)
    (rig.tasks.countP Task.isSettling)
  isOpen : rig.dispatcher.closed = false

theorem countP_isSettling_sole (t : Task) : [t].countP Task.isSettling = t.isSettling.toNat := by
  cases settling : t.isSettling <;> simp [settling]

theorem terminate_isSettling (t : Task) : t.terminate.isSettling = t.isSettling := by
  rcases t.terminate_stage with same | ⟨parked, woken⟩
  · simp [Task.isSettling, same]
  · simp [Task.isSettling, parked, woken]

namespace Accounts
variable {rig next : Rig} {t after : Task} (accounts : rig.Accounts)
include accounts

theorem carry (events : List Entry) (trace : next.trace = events ++ rig.trace)
    (plain : ∀ e ∈ events, e.event.isPlain = true) (dispatcher : next.dispatcher = rig.dispatcher)
    (settling : next.tasks.countP Task.isSettling = rig.tasks.countP Task.isSettling) :
    next.Accounts := by
  refine ⟨?_, ?_⟩
  · rw [trace, results_plain plain, taken_plain plain, dispatcher, settling]
    exact accounts.balanced
  · rw [dispatcher]
    exact accounts.isOpen

theorem carry_sole (events : List Entry) (sole : rig.tasks = [t])
    (trace : next.trace = events ++ rig.trace)
    (plain : ∀ e ∈ events, e.event.isPlain = true) (tasks : next.tasks = [after])
    (dispatcher : next.dispatcher = rig.dispatcher) (settling : after.isSettling = t.isSettling) :
    next.Accounts := by
  apply accounts.carry events trace plain dispatcher
  rw [tasks, sole, countP_isSettling_sole, countP_isSettling_sole, settling]

theorem record {event : Event} (plain : event.isPlain = true) : (rig.record event).Accounts :=
  accounts.carry [_] rfl (by simpa using plain) rfl rfl

theorem act {coin : Nat → Bool} {id : Nat} {heed : Bool} (sole : rig.tasks = [t])
    (stepped : rig.stepTask coin id heed = some next) : next.Accounts := by
  obtain ⟨-, after, acted⟩ := acted coin sole stepped
  obtain ⟨events, trace, own⟩ := acted.own
  have own : ∀ e ∈ events, e.event.byController = true := fun e he => (own e he).2
  -- the same act twice: what it records, and what it comes to at the dispatcher
  obtain ⟨mid, e, ran, worked⟩ := worked coin sole stepped
  obtain ⟨ends, later, handled, tasks, recorded⟩ := worked.handled
  have balanced := accounts.balanced
  rw [sole, countP_isSettling_sole] at balanced
  refine ⟨?_, handled.closed.trans accounts.isOpen⟩
  rw [tasks, countP_isSettling_sole, recorded, trace, taken_own own]
  exact handled.balanced ran balanced

theorem taken {request : Request} (full : rig.dispatcher.pending request = true) :
    (rig.taken request).Accounts := by
  obtain ⟨balanced, isOpen⟩ := accounts
  refine ⟨?_, (Dispatcher.setPending_closed _ _ _).trans isOpen⟩
  have took := balanced.took isOpen request
  rw [full] at took
  exact took

theorem prodded (sole : rig.tasks = [t]) : (rig.prodded t).Accounts := by
  obtain ⟨balanced, isOpen⟩ := accounts
  rw [sole, countP_isSettling_sole, ← terminate_isSettling, ← countP_isSettling_sole] at balanced
  exact ⟨balanced, isOpen⟩

theorem vacated {event : Event} (plain : event.isPlain = true) (sole : rig.tasks = [t])
    (ended : t.isOver = true) : (rig.vacated event).Accounts := by
  have awake : t.isSettling = false := by
    unfold Task.isOver at ended
    unfold Task.isSettling
    split at ended <;> simp_all
  refine accounts.carry [⟨rig.now, event⟩] rfl (by simpa using plain) rfl ?_
  rw [sole, countP_isSettling_sole, awake]
  rfl

theorem joined {stopped : Except Failure Unit} (sole : rig.tasks = [t])
    (joined : rig.Joined t stopped next) : next.Accounts := by
  cases joined with
  | exited exited => exact accounts.vacated rfl sole (Task.isOver_of_exited exited)
  | crashed crashed => exact accounts.vacated rfl sole (Task.isOver_of_crashed crashed)

theorem staffed (plan : Controller.Plan) : (rig.staffed plan).Accounts :=
  accounts.carry [_] rfl (by simp [Event.isPlain]) rfl rfl

end Accounts

end Rig

namespace Soak

def Stage.isRestarting : Stage → Bool
  | .restarting _ => true
  | _ => false

/-- The counts of the loop. A restart is counted when its controller is built, so while one is
being stopped for it there is a request more than restarts. -/
structure Tallied (setup : Setup) (s : Soak) : Prop where
  mode : s.rig.dispatcher.mode = setup.config.mode
  reconnects : (taken s.rig.trace).count .reconnect = s.reconnects
  sent : terminates s.rig.trace = s.reconnects
  restarts : s.stage.hasFailed = false →
    (taken s.rig.trace).count .restart = s.restarts + s.stage.isRestarting.toNat
  constructed : s.stage.hasFailed = false → s.rig.counters.constructed = s.restarts + 1

namespace Tallied
variable {setup : Setup} {s next : Soak} (tallied : s.Tallied setup)
include tallied

theorem carry (mode : next.rig.dispatcher.mode = s.rig.dispatcher.mode)
    (constructed : next.rig.counters.constructed = s.rig.counters.constructed)
    (same : taken next.rig.trace = taken s.rig.trace)
    (sent : terminates next.rig.trace = terminates s.rig.trace)
    (loop : next.reconnects = s.reconnects ∧ next.restarts = s.restarts)
    (stage : next.stage.hasFailed = false →
      s.stage.hasFailed = false ∧ next.stage.isRestarting = s.stage.isRestarting) :
    next.Tallied setup := by
  obtain ⟨reconnects, restarts⟩ := loop
  refine ⟨mode.trans tallied.mode, ?_, ?_, ?_, ?_⟩
  · rw [same, reconnects, tallied.reconnects]
  · rw [sent, reconnects, tallied.sent]
  · intro good
    obtain ⟨before, kind⟩ := stage good
    rw [same, restarts, kind, tallied.restarts before]
  · intro good
    rw [constructed, restarts, tallied.constructed (stage good).1]

theorem pass (events : List Entry) (trace : next.rig.trace = events ++ s.rig.trace)
    (plain : ∀ e ∈ events, e.event.isPlain = true)
    (mode : next.rig.dispatcher.mode = s.rig.dispatcher.mode)
    (constructed : next.rig.counters.constructed = s.rig.counters.constructed)
    (loop : next.reconnects = s.reconnects ∧ next.restarts = s.restarts)
    (stage : next.stage.hasFailed = false →
      s.stage.hasFailed = false ∧ next.stage.isRestarting = s.stage.isRestarting) :
    next.Tallied setup := by
  apply tallied.carry mode constructed _ _ loop stage
  · rw [trace, taken_plain plain]
  · rw [trace, terminates_plain plain]

end Tallied

theorem Opening.accounts {setup : Setup} {s : Soak} (h : Opening setup s) :
    s.rig.Accounts ∧ s.rig.Roster ∧ s.Tallied setup := by
  have bare : (bareRig setup).Accounts := ⟨Dispatcher.balanced_new _ _, rfl⟩
  have nobody : (bareRig setup).Roster := .new _
  have started : (startedRig setup).Accounts := bare.record rfl
  have absent : (startedRig setup).Roster := nobody.record rfl
  cases h with
  | invalid => exact ⟨bare, nobody, rfl, rfl, rfl, nofun, nofun⟩
  | refused =>
    exact ⟨started.carry [_] rfl (by simp [Event.isPlain]) rfl rfl, absent.refused _,
      rfl, rfl, rfl, nofun, nofun⟩
  | panicked | selecting =>
    exact ⟨started.staffed _, absent.staffed _ rfl, rfl, rfl, rfl, fun _ => rfl, fun _ => rfl⟩

section Transition
variable {setup : Setup} {s next : Soak} {move : Move}

theorem Transition.rig_accounts (h : Transition setup s move next) (accounts : s.rig.Accounts) :
    next.rig.Accounts := by
  cases h with
  | act sole stepped => exact accounts.act sole stepped
  | expire stage sole | exceed stage sole =>
    exact accounts.carry_sole [_] sole rfl (by simp [Event.isPlain]) rfl rfl rfl
  | stall stage sole =>
    exact accounts.carry_sole [_, _] sole rfl (by simp [Event.isPlain]) rfl rfl rfl
  | advance =>
    exact accounts.carry [_, _, _] rfl (by simp [Event.isPlain]) rfl rfl
  | reconnect stage sole held full =>
    have taken : (s.rig.taken .reconnect).Accounts := accounts.taken full
    exact taken.prodded sole
  | replace stage sole held full =>
    have taken : (s.rig.taken .restart).Accounts := accounts.taken full
    exact taken.carry_sole [] sole rfl (List.forall_mem_nil _) rfl rfl rfl
  | renew stage sole unheld exited => exact (accounts.joined sole (.exited exited)).staffed _
  | refuse stage sole unheld exited =>
    exact (accounts.joined sole (.exited exited)).carry [_, _] rfl (by simp [Event.isPlain]) rfl rfl
  | collapse stage sole unheld crashed =>
    exact (accounts.joined sole (.crashed crashed)).record rfl
  | @conclude t outcome stopped rig stage sole unheld joined =>
    have accounts := accounts.joined sole joined
    cases outcome <;> cases stopped <;> exact accounts.record rfl
  | overrun | elapse =>
    exact accounts.carry [] rfl (List.forall_mem_nil _) rfl rfl

theorem Transition.roster (h : Transition setup s move next) (roster : s.rig.Roster) :
    next.rig.Roster := by
  cases h with
  | act sole stepped => exact roster.act sole stepped
  | expire stage sole => exact (roster.record rfl).released sole
  | exceed stage sole =>
    exact roster.carry_sole [_] sole rfl (by simp [Event.isStaffing]) rfl rfl rfl rfl rfl
  | stall stage sole =>
    exact roster.carry_sole [_, _] sole rfl (by simp [Event.isStaffing]) rfl rfl rfl rfl rfl
  | advance stage sole =>
    exact roster.carry_sole [_, _, _] sole rfl (by simp [Event.isStaffing]) sole rfl rfl rfl rfl
  | reconnect stage sole =>
    have taken : (s.rig.taken .reconnect).Roster :=
      roster.carry_sole [_] sole rfl (by simp [Event.isStaffing]) sole rfl rfl rfl rfl
    exact taken.prodded sole
  | replace stage sole =>
    exact roster.carry_sole [_] sole rfl (by simp [Event.isStaffing]) rfl rfl rfl rfl rfl
  | renew stage sole unheld exited => exact (roster.joined (.exited exited)).staffed _ rfl
  | refuse stage sole unheld exited =>
    exact ((roster.joined (.exited exited)).refused _).record rfl
  | collapse stage sole unheld crashed => exact (roster.joined (.crashed crashed)).record rfl
  | @conclude t outcome stopped rig stage sole unheld joined =>
    have roster := roster.joined joined
    cases outcome <;> cases stopped <;> exact roster.record rfl
  | overrun => exact roster
  | elapse => exact roster.elapse _

theorem Transition.tallied (h : Transition setup s move next) (tallied : s.Tallied setup) :
    next.Tallied setup := by
  cases h with
  | act sole stepped working acted =>
    obtain ⟨events, trace, own⟩ := acted.own
    have own : ∀ e ∈ events, e.event.byController = true := fun e he => (own e he).2
    refine tallied.carry acted.mode acted.constructed ?_ ?_ ⟨rfl, rfl⟩ fun good => ⟨good, rfl⟩
    · rw [trace, taken_own own]
    · rw [trace, terminates_own own]
  | expire stage =>
    exact tallied.pass [_] rfl (by simp [Event.isPlain]) rfl rfl ⟨rfl, rfl⟩
      fun _ => by rw [stage]; exact ⟨rfl, rfl⟩
  | exceed =>
    exact tallied.pass [_] rfl (by simp [Event.isPlain]) rfl rfl ⟨rfl, rfl⟩ nofun
  | stall =>
    exact tallied.pass [_, _] rfl (by simp [Event.isPlain]) rfl rfl ⟨rfl, rfl⟩ nofun
  | advance =>
    exact tallied.pass [_, _, _] rfl (by simp [Event.isPlain]) rfl rfl ⟨rfl, rfl⟩
      fun good => ⟨good, rfl⟩
  | reconnect stage =>
    obtain ⟨mode, reconnects, sent, restarts, constructed⟩ := tallied
    refine ⟨(Dispatcher.setPending_mode _ _ _).trans mode, ?_, ?_, restarts, constructed⟩
    · exact List.count_cons_self.trans (congrArg (· + 1) reconnects)
    · exact (List.countP_cons_of_pos rfl).trans (congrArg (· + 1) sent)
  | replace stage =>
    obtain ⟨mode, reconnects, sent, restarts, constructed⟩ := tallied
    rw [stage] at restarts constructed
    refine ⟨(Dispatcher.setPending_mode _ _ _).trans mode, reconnects, sent, fun _ => ?_,
      fun _ => constructed rfl⟩
    exact List.count_cons_self.trans (congrArg (· + 1) (restarts rfl))
  | renew stage =>
    obtain ⟨mode, reconnects, sent, restarts, constructed⟩ := tallied
    rw [stage] at restarts constructed
    exact ⟨mode, reconnects, sent, fun _ => restarts rfl,
      fun _ => congrArg (· + 1) (constructed rfl)⟩
  | refuse =>
    exact tallied.pass [_, _, _] rfl (by simp [Event.isPlain]) rfl rfl ⟨rfl, rfl⟩ nofun
  | collapse =>
    exact tallied.pass [_, _] rfl (by simp [Event.isPlain]) rfl rfl ⟨rfl, rfl⟩ nofun
  | @conclude t outcome stopped rig stage sole unheld joined =>
    have good : (({ s with rig } : Soak).conclude outcome stopped).stage.hasFailed = false →
        s.stage.hasFailed = false ∧
          (({ s with rig } : Soak).conclude outcome stopped).stage.isRestarting =
            s.stage.isRestarting := by
      rw [stage]
      intro good
      cases outcome with
      | error => cases good
      | ok =>
        cases stopped with
        | error => cases good
        | ok => exact ⟨rfl, rfl⟩
    cases joined <;> cases outcome <;>
      exact tallied.pass [_, _] rfl (by simp [Event.isPlain]) rfl rfl ⟨rfl, rfl⟩ good
  | overrun stage =>
    exact tallied.pass [] rfl (List.forall_mem_nil _) rfl rfl ⟨rfl, rfl⟩
      fun _ => by rw [stage]; exact ⟨rfl, rfl⟩
  | elapse =>
    exact ⟨tallied.mode, tallied.reconnects, tallied.sent, tallied.restarts, tallied.constructed⟩

end Transition

theorem Reachable.accounts {setup : Setup} {s : Soak} (reach : Reachable setup s) :
    s.rig.Accounts ∧ s.rig.Roster ∧ s.Tallied setup :=
  reach.induct (fun _ h => h.accounts) fun _ _ _ _ ih h =>
    ⟨h.rig_accounts ih.1, h.roster ih.2.1, h.tallied ih.2.2⟩

structure Accounted (setup : Setup) (s : Soak) (report : Report) : Prop where
  tunnels : report.tunnelsEstablished =
    posted (results s.rig.trace) + dropped (results s.rig.trace)
  settled : s.rig.tasks.countP Task.isSettling = 0
  /-- A request can be left in its slot, and only there. -/
  reconnects : (results s.rig.trace).count (.posted .reconnect) =
    report.reconnects + (s.rig.dispatcher.pending .reconnect).toNat
  restarts : (results s.rig.trace).count (.posted .restart) =
    report.restarts + (s.rig.dispatcher.pending .restart).toNat
  served : report.reconnects + report.restarts ≤ report.tunnelsEstablished
  /-- Every reconnect reached the controller that ran at the time. -/
  reached : s.rig.counters.terminateCalls = report.reconnects ∧
    terminates s.rig.trace = report.reconnects
  addressed : ∀ after time controller before,
    s.rig.trace = after ++ ⟨time, .terminateSent controller⟩ :: before →
      (started before).head? = some controller
  constructed : s.rig.counters.constructed = report.restarts + 1 ∧
    (started s.rig.trace).length = report.restarts + 1
  reconnecting : setup.config.mode = .reconnectTunnel → report.restarts = 0
  restarting : setup.config.mode = .restartController →
    report.reconnects = 0 ∧ ∀ e ∈ s.rig.trace, e.event.isTerminate = false

/-- A run that passes accounts for every establishment, request, termination and construction,
and all the while its loop finds a controller to ask for a termination. -/
theorem actions_accounted {setup : Setup} {s : Soak} {report : Report} (reach : Reachable setup s)
    (passed : s.stage = .over (.ok report)) :
    Accounted setup s report ∧
      ∀ at_work, Reachable setup at_work → at_work.isReady .reconnect = true →
        ((at_work.rig.take .reconnect).2.record (.requestTaken .reconnect)).terminate.1 = true := by
  constructor
  · obtain ⟨⟨balanced, isOpen⟩, roster, tallied⟩ := reach.accounts
    obtain ⟨ledger, -⟩ := reach.ledger
    have clocked := reach.clocked.1
    simp only [Clocked, passed] at clocked
    obtain ⟨rfl, -⟩ := clocked
    obtain ⟨mode, reconnects, sent, restarts, constructed⟩ := tallied
    rw [passed] at restarts constructed
    have restarts : (taken s.rig.trace).count .restart = s.restarts := restarts rfl
    have constructed : s.rig.counters.constructed = s.restarts + 1 := constructed rfl
    have vacant := (reach.supervised.over passed).1
    have settled : s.rig.tasks.countP Task.isSettling = 0 := by
      rw [vacant]
      rfl
    rw [settled] at balanced
    obtain ⟨established, slots, unmade, -⟩ := balanced
    have reconnected := slots isOpen .reconnect
    have restarted := slots isOpen .restart
    rw [reconnects] at reconnected
    rw [restarts] at restarted
    rw [mode] at unmade
    have calls : s.rig.counters.terminateCalls = s.reconnects := ledger.terminateCalls.trans sent
    have served : s.reconnects + s.restarts ≤ s.rig.dispatcher.tracker.established := by
      unfold posted at established
      omega
    refine
      { tunnels := established, settled, reconnects := reconnected, restarts := restarted, served
        reached := ⟨calls, sent⟩, addressed := ?_
        constructed := ⟨constructed, roster.constructed ▸ constructed⟩
        reconnecting := ?_, restarting := ?_ }
    · intro after time controller before split
      have addressed := roster.addressed
      rw [split] at addressed
      exact addressed.at controller rfl
    · intro only
      rw [only] at unmade
      obtain ⟨none, -, -⟩ := unmade .restart rfl
      change s.restarts = 0
      omega
    · intro only
      rw [only] at unmade
      obtain ⟨none, -, -⟩ := unmade .reconnect rfl
      have nothing : s.reconnects = 0 := by omega
      refine ⟨nothing, fun e mem => ?_⟩
      rw [nothing] at sent
      exact Bool.eq_false_iff.mpr (List.countP_eq_zero.mp sent e mem)
  · intro at_work reach ready
    obtain ⟨stage, -⟩ := at_work.isReady_reconnect.mp ready
    obtain ⟨t, sole, held⟩ := reach.supervised.selecting stage
    have asked : (at_work.rig.taken .reconnect).terminate = _ := Rig.terminate_sole sole held
    exact congrArg Prod.fst asked

/-- Four tunnels, of which the second has its controller replaced and the last comes with the
deadline. -/
def restless : Setup where
  config :=
    { mode := .reconnectAndRestart, durationSecs := 1, sampleIntervalSecs := 2, settleDelayMs := 0 }
  plan :=
    { refusal _ := none
      script _ :=
        { run := [.sleep 250, .emit (Simulation.tunnelsNotice 1), .awaitTermination]
          repeats := true } }
  coin n := n == 1
  readings _ := ⟨0, 0⟩

theorem restless_run_accounted :
    ∃ s : Soak, s.stage = .over (.ok ⟨.reconnectAndRestart, 4, 2, 1, 0, 0, 0, 1000⟩) ∧
      s.rig.dispatcher.reconnect = true ∧
      Accounted restless s ⟨.reconnectAndRestart, 4, 2, 1, 0, 0, 0, 1000⟩ := by
  obtain ⟨s, made, passed, left⟩ : ∃ s, replay restless (begin restless)
      [.act 1 true, .act 1 true, .elapse, .act 1 true, .act 1 true, .act 1 true, .reconnect,
        .act 1 true, .act 1 true, .act 1 true, .elapse, .act 1 true, .act 1 true, .restart,
        .act 1 true, .act 1 true, .join,
        .act 2 true, .act 2 true, .elapse, .act 2 true, .act 2 true, .act 2 true, .reconnect,
        .act 2 true, .act 2 true, .act 2 true, .elapse, .act 2 true, .act 2 true, .deadline,
        .act 2 true, .act 2 true, .join] = some s ∧
      s.stage = .over (.ok ⟨.reconnectAndRestart, 4, 2, 1, 0, 0, 0, 1000⟩) ∧
      s.rig.dispatcher.reconnect = true := ⟨_, rfl, rfl, rfl⟩
  exact ⟨s, passed, left, (actions_accounted (Reachable.begin.replay made) passed).1⟩

end Soak

end TunnelSoak
