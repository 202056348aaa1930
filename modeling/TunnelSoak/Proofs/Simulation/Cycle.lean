import TunnelSoak.Proofs.Rig.Acts
import TunnelSoak.Proofs.Simulation.Pace

/-! The cycle of the simulated controller. It goes through the points below in order,
once in every period: it waits, establishes its tunnel, lets the establishment settle
and parks, until it is asked to start over or is replaced by a new one. -/
namespace TunnelSoak.Simulation

open Controller (Task Act)

theorem establishes_tunnelsNotice_one : Notice.establishes (tunnelsNotice 1) = true := by
  decide +kernel

theorem establishes_tunnelsNotice_zero : Notice.establishes (tunnelsNotice 0) = false := by
  decide +kernel

theorem establishes_peakNotice : Notice.establishes peakNotice = false := by
  decide +kernel

theorem establishes_meekPeakNotice : Notice.establishes meekPeakNotice = false := by
  decide +kernel

/-- The script of a controller whose tunnels do not break it. -/
def cycle (sim : Simulation) : Controller.Script where
  run := [.sleep sim.establishMs, .raise, .emit (tunnelsNotice 1), .awaitTermination, .lower,
    .emit (tunnelsNotice 0)]
  repeats := true
  shutdown := [.abandon, .emit peakNotice, .emit meekPeakNotice]
  guarded := true
  announced := true
  tidy := false

theorem plan_script {sim : Simulation} (fits : sim.Fits) (index : Nat) :
    sim.plan.script index = sim.cycle := by
  simp [plan, script, leak, fits, cycle]

/-- Where in its cycle the controller stands. Those up to `starting` are the start. -/
inductive Point where
  | asked
  | woken
  | lowering
  | leaving
  | done
  | spawned
  | starting
  | waiting
  | rising
  | reporting
  | settling
  | settled
  | parked

namespace Point

def rank : Point → Nat
  | asked => 0
  | woken => 0
  | lowering => 1
  | leaving => 2
  | done => 3
  | spawned => 3
  | starting => 4
  | waiting => 5
  | rising => 6
  | reporting => 7
  | settling => 8
  | settled => 9
  | parked => 10

theorem rank_le (point : Point) : point.rank ≤ 10 := by
  cases point <;> decide

def counted : Point → Bool
  | settling => true
  | settled => true
  | parked => true
  | _ => false

def posted : Point → Bool
  | settled => true
  | parked => true
  | _ => false

/-- The times at which the controller can stand at a point of cycle `k`. -/
def Window (pace : Pace) (k now : Nat) : Point → Prop
  | waiting => k * pace.periodMs ≤ now ∧ now ≤ pace.establishMs + k * pace.periodMs
  | rising => now = pace.establishMs + k * pace.periodMs
  | reporting => now = pace.establishMs + k * pace.periodMs
  | settling => pace.establishMs + k * pace.periodMs ≤ now ∧ now ≤ (k + 1) * pace.periodMs
  | settled => now = (k + 1) * pace.periodMs
  | parked => now = (k + 1) * pace.periodMs
  | _ => now = k * pace.periodMs

/-- How long a controller takes that is cancelled at a point: a settle delay that has begun
is waited for. -/
def till (pace : Pace) (k now : Nat) : Point → Nat
  | settling => (k + 1) * pace.periodMs
  | _ => now

variable (sim : Simulation) (pace : Pace)

def acts (n : Nat) : List Act := sim.cycle.run.drop n

def task (id k : Nat) (cancelled : Bool) (point : Point) : Task :=
  let base : Task := { id, script := sim.cycle, stage := .ready, cancelled }
  match point with
  | asked => { base with todo := acts sim 3, permit := true, tunnelUp := true }
  | woken => { base with stage := .woken, todo := acts sim 4, tunnelUp := true }
  | lowering => { base with todo := acts sim 4, tunnelUp := true }
  | leaving => { base with todo := acts sim 5 }
  | done => base
  | spawned => { base with stage := .spawned }
  | starting => { base with todo := acts sim 0 }
  | waiting => { base with
      stage := .sleeping (pace.establishMs + k * pace.periodMs), todo := acts sim 1 }
  | rising => { base with todo := acts sim 1 }
  | reporting => { base with todo := acts sim 2, tunnelUp := true }
  | settling => { base with
      stage := .settling ((k + 1) * pace.periodMs) (k + 1)
      todo := acts sim 3, tunnelUp := true }
  | settled => { base with todo := acts sim 3, tunnelUp := true }
  | parked => { base with stage := .parked, todo := acts sim 4, tunnelUp := true }

end Point

section step
variable (sim : Simulation) (setup : Setup) (id k now : Nat) (cancelled heed : Bool)

theorem Point.step_starting (begun : now = k * (sim.pace setup).periodMs)
    (unheard : (cancelled && heed) = false) :
    (Point.starting.task sim (sim.pace setup) id k cancelled).step now heed =
      some (if sim.establishMs = 0 then Point.rising.task sim (sim.pace setup) id k cancelled
        else Point.waiting.task sim (sim.pace setup) id k cancelled, .none) := by
  have due : now + sim.establishMs =
      (sim.pace setup).establishMs + k * (sim.pace setup).periodMs := by
    rw [begun, Nat.add_comm]
    rfl
  unfold Point.task
  rw [← due]
  by_cases instant : sim.establishMs = 0 <;> cases cancelled <;> cases heed <;>
    simp_all [Task.step, Task.perform, Task.interrupted, Point.acts, cycle]

theorem Point.step_waiting :
    (Point.waiting.task sim (sim.pace setup) id k false).step now heed =
      if (sim.pace setup).establishMs + k * (sim.pace setup).periodMs ≤ now then
        some (Point.rising.task sim (sim.pace setup) id k false, .none)
      else none := rfl

theorem Point.step_settling :
    (Point.settling.task sim (sim.pace setup) id k cancelled).step now heed =
      if (k + 1) * (sim.pace setup).periodMs ≤ now then
        some (Point.settled.task sim (sim.pace setup) id k cancelled, .settle (k + 1))
      else none := rfl

end step

section Window
variable {pace : Pace} {point : Point} {k now : Nat} (window : point.Window pace k now)
include window

theorem Point.Window.bounds : k * pace.periodMs ≤ now ∧ now ≤ (k + 1) * pace.periodMs := by
  have period := pace.next_period k
  cases point <;> simp only [Point.Window] at window <;> omega

theorem Point.Window.requests (untied : ∀ k, now ≠ (k + 1) * pace.periodMs) :
    now / pace.periodMs = k := by
  obtain ⟨low, high⟩ := Point.Window.bounds window
  exact Nat.div_eq_of_lt_le low (Nat.lt_of_le_of_ne high (untied k))

theorem Point.Window.established (untied : ∀ k, now ≠ pace.establishMs + k * pace.periodMs) :
    pace.establishedBy now = k + point.counted.toNat := by
  have period := pace.next_period k
  have here := untied k
  have there := untied (k + 1)
  cases point with
  | settling | settled | parked =>
    simp only [Point.Window] at window
    exact Pace.establishedBy_of_settling (by omega) (by omega)
  | _ =>
    simp only [Point.Window] at window
    have before : pace.establishedBy now = k :=
      Pace.establishedBy_of_waiting (by omega) (by omega)
    exact before

theorem Point.Window.till :
    point.till pace k now = max now ((k + point.counted.toNat) * pace.periodMs) := by
  have period := pace.next_period k
  cases point <;> simp only [Point.Window, Point.till, Point.counted, Bool.toNat_true,
    Bool.toNat_false, Nat.add_zero] at window ⊢ <;> omega

end Window

def desk (setup : Setup) (k : Nat) (counted posted : Bool) : Dispatcher where
  mode := setup.config.mode
  settleMs := setup.config.settleDelayMs
  tracker := ⟨k + counted.toNat⟩
  reconnect := posted && setup.config.mode.request setup.coin k == .reconnect
  restart := posted && setup.config.mode.request setup.coin k == .restart
  flips := (k + posted.toNat) * setup.config.mode.flipsEach

section desk
variable (setup : Setup) (k : Nat)

theorem request_flips :
    setup.config.mode.request setup.coin (k * setup.config.mode.flipsEach) =
      setup.config.mode.request setup.coin k := by
  cases setup.config.mode <;> simp [Mode.request, Mode.flipsEach]

theorem desk_settle :
    (desk setup k true false).settle setup.coin =
      (.posted (setup.config.mode.request setup.coin k), desk setup k true true) := by
  have chosen := request_flips setup k
  have flips := Nat.succ_mul k setup.config.mode.flipsEach
  rw [Dispatcher.settle_eq]
  simp only [desk, Bool.toNat_false, Bool.toNat_true, Nat.add_zero, chosen, flips]
  cases setup.config.mode.request setup.coin k <;> rfl

theorem desk_take {request : Request}
    (pending : setup.config.mode.request setup.coin k = request) :
    ((desk setup k true true).take request).2 = desk setup (k + 1) false false := by
  subst pending
  unfold desk
  cases setup.config.mode.request setup.coin k <;> rfl

end desk

section act
variable {sim : Simulation} {setup : Setup} {rig next : Rig} {t : Task}

theorem deliver_quiet (coin : Nat → Bool) (sole : rig.tasks = [t]) {notice : List UInt8}
    (quiet : Notice.establishes notice = false) :
    (rig.deliver coin t.id notice).tasks = [{ t with stage := .ready }] ∧
      (rig.deliver coin t.id notice).dispatcher = rig.dispatcher := by
  obtain ⟨result, arrived⟩ := rig.dispatcher.arrive_of_not_establishes quiet
  rw [Rig.deliver_finished coin sole arrived]
  exact ⟨rfl, rfl⟩

theorem settle_sole (coin : Nat → Bool) (established : Nat) (sole : rig.tasks = [t]) :
    (rig.settle coin t.id established).tasks = [{ t with stage := .ready }] ∧
      (rig.settle coin t.id established).dispatcher = (rig.dispatcher.settle coin).2 := by
  rw [Rig.settle_eq coin sole]
  exact ⟨rfl, rfl⟩

theorem deliver_report {id k : Nat}
    (sole : rig.tasks = [Point.settled.task sim (sim.pace setup) id k false])
    (now : rig.now = k * (sim.pace setup).periodMs + sim.establishMs)
    (dispatcher : rig.dispatcher = desk setup k false false) :
    let next := rig.deliver setup.coin id (tunnelsNotice 1)
    ∃ point : Point, 8 ≤ point.rank ∧ next.tasks = [point.task sim (sim.pace setup) id k false] ∧
      next.dispatcher = desk setup k point.counted point.posted ∧
      point.Window (sim.pace setup) k rig.now := by
  have arrived : rig.dispatcher.arrive (tunnelsNotice 1) =
      (.established (k + 1), desk setup k true false) := by
    rw [dispatcher]
    exact Dispatcher.arrive_of_establishes _ establishes_tunnelsNotice_one
  have period := (sim.pace setup).next_period k
  by_cases instant : (desk setup k true false).settleMs = 0
  · have delivered := Rig.deliver_at_once setup.coin sole arrived instant
    rw [desk_settle] at delivered
    refine ⟨.settled, by decide, congrArg Rig.tasks delivered,
      congrArg Rig.dispatcher delivered, ?_⟩
    exact now.trans (period.trans (congrArg (_ + ·) instant)).symm
  · have delivered := Rig.deliver_settling setup.coin sole arrived instant
    rw [now, show (desk setup k true false).settleMs = (sim.pace setup).settleMs from rfl,
      show sim.establishMs = (sim.pace setup).establishMs from rfl, ← period] at delivered
    refine ⟨.settling, by decide, congrArg Rig.tasks delivered,
      congrArg Rig.dispatcher delivered, ?_⟩
    refine ⟨Nat.le_of_eq ((Nat.add_comm _ _).trans now.symm), ?_⟩
    rw [now, period]
    exact Nat.le_add_right _ _

/-- A controller that is not cancelled goes on to a later point of its cycle. -/
theorem Point.act {point : Point} {id k other : Nat} {heed : Bool}
    (sole : rig.tasks = [point.task sim (sim.pace setup) id k false])
    (dispatcher : rig.dispatcher = desk setup k point.counted point.posted)
    (window : point.Window (sim.pace setup) k rig.now)
    (stepped : rig.stepTask setup.coin other heed = some next) :
    ∃ later : Point, point.rank < later.rank ∧
      next.tasks = [later.task sim (sim.pace setup) id k false] ∧
      next.dispatcher = desk setup k later.counted later.posted ∧
      later.Window (sim.pace setup) k rig.now := by
  obtain ⟨-, mid, e, ran, rfl⟩ := (Rig.stepTask_sole setup.coin sole other heed).mp stepped
  cases point with
  | asked =>
    cases ran
    exact ⟨.lowering, by decide, rfl, dispatcher, window⟩
  | woken =>
    cases ran
    exact ⟨.lowering, by decide, rfl, dispatcher, window⟩
  | lowering =>
    cases ran
    exact ⟨.leaving, by decide, rfl, dispatcher, window⟩
  | leaving =>
    cases ran
    obtain ⟨tasks, same⟩ := deliver_quiet setup.coin (rig.withTask_tasks _)
      establishes_tunnelsNotice_zero
    exact ⟨.done, by decide, tasks, same.trans dispatcher, window⟩
  | done =>
    cases ran
    exact ⟨.starting, by decide, rfl, dispatcher, window⟩
  | spawned =>
    cases ran
    exact ⟨.starting, by decide, rfl, dispatcher, window⟩
  | starting =>
    have now : rig.now = k * (sim.pace setup).periodMs := window
    rw [Point.step_starting sim setup id k _ false heed now rfl] at ran
    cases ran
    by_cases instant : sim.establishMs = 0
    · rw [if_pos instant]
      exact ⟨.rising, by decide, rfl, dispatcher, now.trans (by simp [pace, instant])⟩
    · rw [if_neg instant]
      exact ⟨.waiting, by decide, rfl, dispatcher, Nat.le_of_eq now.symm, now ▸ Nat.le_add_left _ _⟩
  | waiting =>
    obtain ⟨late, early⟩ := window
    rw [Point.step_waiting] at ran
    split at ran
    · rename_i due
      cases ran
      exact ⟨.rising, by decide, rfl, dispatcher, Nat.le_antisymm early due⟩
    · cases ran
  | rising =>
    cases ran
    exact ⟨.reporting, by decide, rfl, dispatcher, window⟩
  | reporting =>
    cases ran
    obtain ⟨later, rank, made⟩ := deliver_report
      (rig.withTask_tasks (Point.settled.task sim (sim.pace setup) id k false))
      (Eq.trans window (Nat.add_comm _ _)) dispatcher
    exact ⟨later, rank, made⟩
  | settling =>
    obtain ⟨late, early⟩ := window
    rw [Point.step_settling] at ran
    split at ran
    · rename_i due
      cases ran
      obtain ⟨tasks, posted⟩ := settle_sole setup.coin (k + 1)
        (rig.withTask_tasks (Point.settled.task sim (sim.pace setup) id k false))
      refine ⟨.settled, by decide, tasks, posted.trans ?_, ?_⟩
      · rw [show (rig.withTask _).dispatcher = desk setup k true false from dispatcher, desk_settle]
        rfl
      · exact Nat.le_antisymm early due
    · cases ran
  | settled =>
    cases ran
    exact ⟨.parked, by decide, rfl, dispatcher, window⟩
  | parked => cases ran

end act

end TunnelSoak.Simulation
