import TunnelSoak.Proofs.Rig.Deliveries
import TunnelSoak.Proofs.Soak.Run
import TunnelSoak.Simulation.Script

/-! One controller at a time. The trace tells which controllers were started and have
not come to an end; at any moment these are the tasks of the rig that are not over,
and the rig has at most one task. A controller is built only where there is none.

The factory's own count of live controllers is another matter. A controller that crashes may
stay on it, as the simulated one does; it is the last one of its run then, and the only one
that is counted. -/
namespace TunnelSoak

open Controller (Act Task)
open History

namespace Controller

/-- A controller of this script is taken off the count of live ones however it ends. -/
def Script.Counted (script : Script) : Prop :=
  script.tidy = true ∨ ∀ message, Act.crash message ∉ script.run ++ script.shutdown

/-- The task has nothing left to do but what its script says. -/
def Task.Faithful (t : Task) : Prop := ∀ act ∈ t.todo, act ∈ t.script.run ++ t.script.shutdown

theorem Task.Faithful.terminate {t : Task} (faithful : t.Faithful) : t.terminate.Faithful := by
  unfold Task.terminate
  (repeat' split) <;> exact faithful

theorem Task.Faithful.step {t after : Task} {e : Effect} {now : Nat} {heed : Bool}
    (faithful : t.Faithful) (ran : t.step now heed = some (after, e)) : after.Faithful := by
  intro act mem
  rw [(Task.step_spec ran).1.script]
  exact (Task.step_todo ran act mem).elim (faithful act) fun scripted => scripted

end Controller

theorem Simulation.script_counted {sim : Simulation} (fits : sim.Fits) : sim.script.Counted := by
  refine .inr fun message => ?_
  simp [script, leak, fits]

namespace Rig

def working (tasks : List Task) : List Nat := (tasks.filter fun t => !t.isOver).map Task.id

theorem working_sole (t : Task) : working [t] = if t.isOver then [] else [t.id] := by
  unfold working
  cases ended : t.isOver <;> simp [ended]

theorem countP_isLive_sole (t : Task) : [t].countP Task.isLive = t.isLive.toNat := by
  cases live : t.isLive <;> simp [live]

/-- The trace and the counters agree with the tasks of the rig. -/
structure Attended (rig : Rig) : Prop where
  unfinished : unfinished rig.trace = working rig.tasks
  live : rig.counters.live = rig.tasks.countP Task.isLive + strays rig.trace
  peak : rig.counters.peakLive ≤ 1 + strays rig.trace
  alone :
    Throughout (fun e before => e.event.isConstruction = true → History.unfinished before = [])
      rig.trace
  attempts : rig.counters.attempts = constructions rig.trace

namespace Attended
variable {rig next : Rig} {t after : Task} (att : rig.Attended)
include att

theorem carry (events : List Entry) (trace : next.trace = events ++ rig.trace)
    (routine : ∀ e ∈ events, e.event.isRoutine = true)
    (same : working next.tasks = working rig.tasks)
    (live : next.tasks.countP Task.isLive = rig.tasks.countP Task.isLive)
    (counters : next.counters.live = rig.counters.live ∧
      next.counters.peakLive = rig.counters.peakLive ∧
      next.counters.attempts = rig.counters.attempts) : next.Attended := by
  obtain ⟨counted, peak, attempts⟩ := counters
  refine ⟨?_, ?_, ?_, ?_, ?_⟩
  · rw [trace, unfinished_routine routine, same, att.unfinished]
  · rw [counted, att.live, live, trace, strays_routine routine]
  · rw [peak, trace, strays_routine routine]
    exact att.peak
  · rw [trace]
    apply att.alone.append
    intro e he before construction
    have := routine e he
    revert this construction
    cases e.event <;> simp [Event.isRoutine, Event.isConstruction]
  · rw [trace, constructions_routine routine, attempts, att.attempts]

theorem carry_sole (events : List Entry) (sole : rig.tasks = [t])
    (trace : next.trace = events ++ rig.trace)
    (routine : ∀ e ∈ events, e.event.isRoutine = true) (tasks : next.tasks = [after])
    (id : after.id = t.id) (ended : after.isOver = t.isOver) (live : after.isLive = t.isLive)
    (counters : next.counters.live = rig.counters.live ∧
      next.counters.peakLive = rig.counters.peakLive ∧
      next.counters.attempts = rig.counters.attempts) : next.Attended := by
  refine att.carry events trace routine ?_ ?_ counters
  · rw [tasks, sole, working_sole, working_sole, id, ended]
  · rw [tasks, sole, countP_isLive_sole, countP_isLive_sole, live]

theorem acted (sole : rig.tasks = [t]) (working : t.isOver = false)
    (acted : rig.Acted next t after) : next.Attended := by
  obtain ⟨unfinished, live, peak, alone, attempts⟩ := att
  obtain ⟨events, trace, own⟩ := acted.own
  rw [sole, working_sole, if_neg (by simp [working])] at unfinished
  rw [sole, countP_isLive_sole] at live
  have liveAfter := acted.live live
  refine ⟨?_, ?_, ?_, ?_, ?_⟩
  · rw [acted.unfinished, acted.tasks, unfinished, working_sole, acted.kept.id]
    split <;> simp
  · rw [acted.tasks, liveAfter, countP_isLive_sole]
  · have one := after.isLive.toNat_le
    have more : strays rig.trace ≤ strays next.trace := acted.strays ▸ Nat.le_add_right _ _
    have most := acted.peak
    omega
  · rw [trace]
    apply alone.append
    intro e he before construction
    have := (own e he).2
    revert this construction
    cases e.event <;> simp [Event.byController, Event.isConstruction]
  · rw [acted.attempts, attempts, trace]
    exact (constructions_own fun e he => (own e he).2).symm

theorem vacated {event : Event} (routine : event.isRoutine = true) (sole : rig.tasks = [t])
    (ended : t.isOver = true) : (rig.vacated event).Attended := by
  have idle : t.isLive = false := by simp [Task.isLive, ended]
  refine att.carry [⟨rig.now, event⟩] rfl (by simpa using routine) ?_ ?_
    ⟨rfl, rfl, rfl⟩
  · rw [sole, working_sole, if_pos ended]
    rfl
  · rw [sole, countP_isLive_sole, idle]
    rfl

theorem joined {stopped : Except Failure Unit} (sole : rig.tasks = [t])
    (joined : rig.Joined t stopped next) : next.Attended := by
  cases joined with
  | exited exited => exact att.vacated rfl sole (Task.isOver_of_exited exited)
  | crashed crashed => exact att.vacated rfl sole (Task.isOver_of_crashed crashed)

theorem refused {failure : Failure} (vacant : rig.tasks = []) :
    (rig.refused failure).Attended := by
  obtain ⟨unfinished, live, peak, alone, attempts⟩ := att
  have none : History.unfinished rig.trace = [] := by rw [unfinished, vacant]; rfl
  refine ⟨unfinished, ?_, ?_, ⟨fun _ => none, alone⟩,
    (congrArg (· + 1) attempts).trans (List.countP_cons_of_pos rfl).symm⟩
  · exact live.trans (congrArg _ (strays_pass rfl).symm)
  · exact Nat.le_trans peak (Nat.le_of_eq (congrArg _ (strays_pass rfl).symm))

theorem staffed {plan : Controller.Plan} (vacant : rig.tasks = []) :
    (rig.staffed plan).Attended := by
  obtain ⟨unfinished, live, peak, alone, attempts⟩ := att
  have none : History.unfinished rig.trace = [] := by rw [unfinished, vacant]; rfl
  have same : strays (rig.staffed plan).trace = strays rig.trace := strays_pass rfl
  refine ⟨?_, ?_, same ▸ peak, ⟨fun _ => none, alone⟩,
    (congrArg (· + 1) attempts).trans (List.countP_cons_of_pos rfl).symm⟩
  · change _ :: History.unfinished rig.trace = working (_ :: rig.tasks)
    rw [vacant, none]
    rfl
  · change rig.counters.live = (_ :: rig.tasks).countP Task.isLive + _
    rw [live, vacant, same]
    rfl

theorem record {event : Event} (routine : event.isRoutine = true) :
    (rig.record event).Attended :=
  att.carry [_] rfl (by simpa using routine) rfl rfl ⟨rfl, rfl, rfl⟩

end Attended

theorem crash_of_hasCrashed {coin : Nat → Bool} {rig next : Rig} {t after : Task} {id : Nat}
    {heed : Bool} (sole : rig.tasks = [t]) (stepped : rig.stepTask coin id heed = some next)
    (tasks : next.tasks = [after]) (crashed : after.hasCrashed = true) :
    ∃ message, Act.crash message ∈ t.todo := by
  obtain ⟨mid, e, ran, worked⟩ := worked coin sole stepped
  obtain ⟨results, same, handled, again, -⟩ := worked.handled
  obtain rfl : after = same := List.singleton_inj.mp (tasks.symm.trans again)
  exact Task.step_hasCrashed ran (handled.hasCrashed crashed)

/-- Unless the last controller has crashed nobody is counted as live who is gone, and never is
more than one controller. -/
structure Lone (rig : Rig) : Prop where
  sound : ∀ t ∈ rig.tasks, t.hasCrashed = false → strays rig.trace = 0
  live : rig.counters.live ≤ 1
  peak : rig.counters.peakLive ≤ 1

namespace Lone
variable {rig next : Rig} {t after : Task} (lone : rig.Lone)
include lone

theorem carry (same : strays next.trace = strays rig.trace)
    (tasks : ∀ t ∈ next.tasks, t.hasCrashed = false → ∃ u ∈ rig.tasks, u.hasCrashed = false)
    (counters : next.counters.live = rig.counters.live ∧
      next.counters.peakLive = rig.counters.peakLive) : next.Lone := by
  obtain ⟨live, peak⟩ := counters
  refine ⟨fun t mem sound => ?_, live ▸ lone.live, peak ▸ lone.peak⟩
  obtain ⟨u, old, sound⟩ := tasks t mem sound
  rw [same, lone.sound u old sound]

theorem carry_sole (sole : rig.tasks = [t]) (same : strays next.trace = strays rig.trace)
    (tasks : next.tasks = [after]) (crashed : after.hasCrashed = t.hasCrashed)
    (counters : next.counters.live = rig.counters.live ∧
      next.counters.peakLive = rig.counters.peakLive) : next.Lone := by
  refine lone.carry same (fun u mem sound => ⟨t, sole ▸ List.mem_singleton_self t, ?_⟩) counters
  rw [tasks, List.mem_singleton] at mem
  rw [← crashed, ← mem, sound]

theorem acted (att : rig.Attended) (sole : rig.tasks = [t]) (working : t.isOver = false)
    (acted : rig.Acted next t after) : next.Lone := by
  have none : strays rig.trace = 0 :=
    lone.sound t (sole ▸ List.mem_singleton_self t) (Task.not_hasCrashed working)
  have live : next.counters.live = after.isLive.toNat + strays next.trace :=
    acted.live (by rw [att.live, sole, countP_isLive_sole])
  have strays := acted.strays
  rw [none, Nat.zero_add] at strays
  have one : next.counters.live ≤ 1 := by
    rw [live, strays]
    cases crashed : after.hasCrashed with
    | false => simpa using after.isLive.toNat_le
    | true =>
      rw [Task.isLive_of_hasCrashed crashed]
      simpa using Bool.toNat_le _
  refine ⟨fun u mem sound => ?_, one, ?_⟩
  · rw [acted.tasks, List.mem_singleton] at mem
    rw [strays, ← mem, sound]
    rfl
  · exact Nat.le_trans acted.peak (Nat.max_le.mpr ⟨lone.peak, one⟩)

end Lone

end Rig

namespace Soak

theorem Opening.attended {setup : Setup} {s : Soak} (h : Opening setup s) : s.rig.Attended := by
  have bare : (bareRig setup).Attended := ⟨rfl, rfl, Nat.zero_le _, trivial, rfl⟩
  have started : (startedRig setup).Attended := bare.record rfl
  cases h with
  | invalid => exact bare
  | refused => exact started.refused rfl
  | panicked | selecting => exact started.staffed rfl

theorem Transition.attended {setup : Setup} {s next : Soak} {move : Move}
    (h : Transition setup s move next) (att : s.rig.Attended) : next.rig.Attended := by
  cases h with
  | act sole stepped working acted => exact att.acted sole working acted
  | expire stage sole | exceed stage sole | replace stage sole =>
    exact att.carry_sole [_] sole rfl (by simp [Event.isRoutine]) rfl rfl rfl rfl
      ⟨rfl, rfl, rfl⟩
  | stall stage sole =>
    exact att.carry_sole [_, _] sole rfl (by simp [Event.isRoutine]) rfl rfl rfl rfl
      ⟨rfl, rfl, rfl⟩
  | advance stage sole =>
    exact att.carry [_, _, _] rfl (by simp [Event.isRoutine]) rfl rfl ⟨rfl, rfl, rfl⟩
  | overrun => exact att
  | @reconnect t stage sole =>
    exact att.carry_sole [_, _] sole rfl (by simp [Event.isRoutine]) rfl
      t.terminate_id t.terminate_isOver t.terminate_isLive ⟨rfl, rfl, rfl⟩
  | renew stage sole unheld exited => exact (att.joined sole (.exited exited)).staffed rfl
  | refuse stage sole unheld exited =>
    exact ((att.joined sole (.exited exited)).refused rfl).record rfl
  | collapse stage sole unheld crashed => exact (att.joined sole (.crashed crashed)).record rfl
  | conclude stage sole unheld joined =>
    obtain ⟨event, routine, recorded⟩ := conclude_rig { s with rig := _ } _ _
    rw [recorded]
    exact (att.joined sole joined).record routine
  | elapse => exact ⟨att.unfinished, att.live, att.peak, att.alone, att.attempts⟩

theorem Transition.strays_of_loop {setup : Setup} {s next : Soak} {move : Move}
    (h : Transition setup s move next) (loop : ∀ id heed, move ≠ .act id heed) :
    strays next.rig.trace = strays s.rig.trace := by
  cases h with
  | act => exact absurd rfl (loop _ _)
  | expire | exceed | replace => exact strays_pass rfl
  | stall | reconnect | renew | collapse => exact (strays_pass rfl).trans (strays_pass rfl)
  | advance | refuse =>
    exact (strays_pass rfl).trans ((strays_pass rfl).trans (strays_pass rfl))
  | @conclude t outcome stopped rig stage sole unheld joined =>
    obtain ⟨event, routine, recorded⟩ := conclude_rig { s with rig } outcome stopped
    have last : ∀ e ∈ [Entry.mk rig.now event], e.event.isRoutine = true := by
      simpa using routine
    rw [recorded]
    refine (strays_routine last).trans ?_
    cases joined <;> exact strays_pass rfl
  | overrun | elapse => rfl

theorem Opening.lone {setup : Setup} {s : Soak} (h : Opening setup s) : s.rig.Lone := by
  cases h <;> exact ⟨fun _ _ _ => rfl, Nat.zero_le _, Nat.zero_le _⟩

theorem Transition.lone {setup : Setup} {s next : Soak} {move : Move}
    (h : Transition setup s move next) (att : s.rig.Attended) (lone : s.rig.Lone) :
    next.rig.Lone := by
  have same := h.strays_of_loop
  cases h with
  | act sole stepped working acted => exact lone.acted att sole working acted
  | expire stage sole | exceed stage sole | stall stage sole | replace stage sole =>
    exact lone.carry_sole sole (same (by simp)) rfl rfl ⟨rfl, rfl⟩
  | advance stage sole => exact lone.carry_sole sole (same (by simp)) sole rfl ⟨rfl, rfl⟩
  | @reconnect t stage sole =>
    exact lone.carry_sole sole (same (by simp)) rfl t.terminate_hasCrashed ⟨rfl, rfl⟩
  | @renew t stage sole unheld exited =>
    have sound : t.hasCrashed = false := by rw [Task.hasCrashed, exited]
    exact lone.carry_sole sole (same (by simp)) rfl sound.symm ⟨rfl, rfl⟩
  | refuse | collapse => exact lone.carry (same (by simp)) (List.forall_mem_nil _) ⟨rfl, rfl⟩
  | @conclude t outcome stopped rig stage sole unheld joined =>
    have vacant : (({ s with rig } : Soak).conclude outcome stopped).rig.tasks = [] ∧
        (({ s with rig } : Soak).conclude outcome stopped).rig.counters = s.rig.counters := by
      obtain ⟨event, -, recorded⟩ := conclude_rig { s with rig } outcome stopped
      rw [recorded]
      cases joined <;> exact ⟨rfl, rfl⟩
    refine lone.carry (same (by simp)) (fun t mem => ?_) ⟨by rw [vacant.2], by rw [vacant.2]⟩
    rw [vacant.1] at mem
    cases mem
  | overrun | elapse => exact ⟨lone.sound, lone.live, lone.peak⟩

theorem Reachable.attended {setup : Setup} {s : Soak} (reach : Reachable setup s) :
    s.rig.Attended :=
  reach.induct (fun _ h => h.attended) fun _ _ _ _ att h => h.attended att

theorem Reachable.lone {setup : Setup} {s : Soak} (reach : Reachable setup s) : s.rig.Lone :=
  reach.induct (fun _ h => h.lone) fun _ _ _ reach lone h => h.lone reach.attended lone

section Counted
variable {setup : Setup} {s : Soak} (scripts : ∀ index, (setup.plan.script index).Counted)
include scripts

theorem Reachable.counted (reach : Reachable setup s) :
    ∀ t ∈ s.rig.tasks, t.script.Counted ∧ t.Faithful := by
  refine reach.every (fun index _ => ⟨scripts index, nofun⟩) (fun _ => id) (fun t kept => ?_)
    fun kept ran handled => ?_
  · obtain ⟨counted, faithful⟩ := kept
    exact ⟨t.terminate_kept.script ▸ counted, faithful.terminate⟩
  · obtain ⟨counted, faithful⟩ := kept
    obtain ⟨stage, rfl⟩ := handled.after_eq
    obtain ⟨same, -, -⟩ := Task.step_spec ran
    have still := faithful.step ran
    exact ⟨same.script ▸ counted, still⟩

theorem Reachable.strays_eq_zero (reach : Reachable setup s) : strays s.rig.trace = 0 := by
  have opening (s : Soak) (opening : Opening setup s) : strays s.rig.trace = 0 := by
    cases opening <;> rfl
  refine reach.induct opening fun s move next reach ih h => ?_
  have loop := h.strays_of_loop
  cases h with
  | @act t after rig heed sole stepped working acted =>
    obtain ⟨counted, faithful⟩ := reach.counted scripts t (sole ▸ List.mem_singleton_self t)
    have tidy : (after.hasCrashed && !t.script.tidy) = false := by
      cases crashed : after.hasCrashed with
      | false => rfl
      | true =>
        obtain ⟨message, mem⟩ := Rig.crash_of_hasCrashed sole stepped acted.tasks crashed
        rcases counted with tidy | unbroken
        · rw [tidy]
          rfl
        · exact absurd (faithful _ mem) (unbroken message)
    rw [acted.strays, tidy, ih]
    rfl
  | _ => exact (loop nofun).trans ih

end Counted

/-- At every moment at most one controller is unfinished, none is when one is asked for,
and none is left when the run is over. The factory never counts two as live, and counts none
when the run is over unless one has crashed that it cannot take off its count. -/
theorem one_controller_at_a_time {setup : Setup} {s : Soak} (reach : Reachable setup s) :
    unfinished s.rig.trace = Rig.working s.rig.tasks ∧
      (unfinished s.rig.trace).length ≤ 1 ∧
      s.rig.counters.attempts = constructions s.rig.trace ∧
      (∀ after e before, s.rig.trace = after ++ e :: before → e.event.isConstruction = true →
        unfinished before = []) ∧
      s.rig.counters.live ≤ 1 ∧ s.rig.counters.peakLive ≤ 1 ∧
      ∀ result, s.stage = .over result →
        unfinished s.rig.trace = [] ∧ s.rig.tasks = [] ∧
          s.rig.counters.live = strays s.rig.trace ∧
          ((∀ index, (setup.plan.script index).Counted) → s.rig.counters.live = 0) ∧
          ∀ sim : Simulation, setup.plan = sim.plan → sim.Fits → s.rig.counters.live = 0 := by
  have att := reach.attended
  refine ⟨att.unfinished, ?_, att.attempts, ?_, reach.lone.live, reach.lone.peak, ?_⟩
  · rw [att.unfinished]
    rcases reach.supervised.tasks with none | ⟨t, sole⟩
    · simp [none, Rig.working]
    · rw [sole, Rig.working_sole]
      split <;> simp
  · intro after e before split
    have alone := att.alone
    rw [split] at alone
    exact alone.at
  · intro result ended
    have vacant : s.rig.tasks = [] := (reach.supervised.over ended).1
    have live : s.rig.counters.live = strays s.rig.trace := by
      rw [att.live, vacant]
      exact Nat.zero_add _
    have uncounted (counted : ∀ index, (setup.plan.script index).Counted) :
        s.rig.counters.live = 0 := live.trans (reach.strays_eq_zero counted)
    refine ⟨by rw [att.unfinished, vacant]; rfl, vacant, live, uncounted, fun sim built fits => ?_⟩
    exact uncounted (built ▸ fun _ => sim.script_counted fits)

/-- A controller that panics while it is stopped for a restart. -/
def brittle : Setup where
  config := { mode := .restartController, settleDelayMs := 0 }
  plan :=
    { refusal _ := none
      script _ :=
        { run := [.emit (Simulation.tunnelsNotice 1)]
          shutdown := [.crash "no brakes"] } }
  coin _ := false
  readings _ := ⟨0, 0⟩

theorem brittle_run_leaves_none : ∃ s, Reachable brittle s ∧ crashes s.rig.trace = [1] ∧
    s.stage = .over (.error (.task (Rig.crashReason 1 "no brakes"))) ∧
    unfinished s.rig.trace = [] ∧ s.rig.counters.live = 0 := by
  obtain ⟨s, made, crashed, ended⟩ : ∃ s, replay brittle (begin brittle)
      [.act 1 true, .act 1 true, .restart, .act 1 true, .act 1 true, .act 1 true, .join] = some s ∧
      crashes s.rig.trace = [1] ∧
      s.stage = .over (.error (.task (Rig.crashReason 1 "no brakes"))) := ⟨_, rfl, rfl, rfl⟩
  have reach : Reachable brittle s := Reachable.begin.replay made
  obtain ⟨-, -, -, -, -, -, none_left⟩ := one_controller_at_a_time reach
  obtain ⟨unfinished, -, -, uncounted, -⟩ := none_left _ ended
  exact ⟨s, reach, crashed, ended, unfinished, uncounted fun _ => .inl rfl⟩

/-- A simulated controller whose tunnel wants more memory than there can be. -/
def bloated : Setup where
  config := { durationSecs := 3, sampleIntervalSecs := 2 }
  plan := Simulation.plan { establishMs := 100, leakBytesPerTunnel := Nat.pow 2 63 }
  coin _ := false
  readings _ := ⟨0, 0⟩

/-- A simulated controller that crashes is counted as live when the run is over. -/
theorem bloated_run_counts_one : ∃ s, Reachable bloated s ∧
    s.stage = .over (.error (.stalled 0 0)) ∧ s.rig.tasks = [] ∧ s.rig.counters.live = 1 := by
  obtain ⟨s, made, ended⟩ : ∃ s, replay bloated (begin bloated)
      [.act 1 true, .act 1 true, .elapse, .act 1 true, .act 1 true, .act 1 true, .elapse, .tick,
        .join] = some s ∧
      s.stage = .over (.error (.stalled 0 0)) ∧ s.rig.tasks = [] ∧ s.rig.counters.live = 1 :=
    ⟨_, rfl, rfl, rfl, rfl⟩
  exact ⟨s, Reachable.begin.replay made, ended⟩

end Soak

end TunnelSoak
