import TunnelSoak.Proofs.Rig.Deliveries
import TunnelSoak.Proofs.Simulation.Retirement

/-! The simulated controller in any order of events. Where the cycle of a run on time
knows the hour of every point, here a request to terminate may come before or after the
controller waits for it and a cancellation at any point. What stays is the stance: at each
point it is known how many requests are pending and whether one is yet to be obeyed. -/
namespace TunnelSoak.Simulation

open Controller (Task Act Effect)
open Dispatcher (posted dropped)

namespace Point

def place : Point → Nat
  | starting => 0
  | waiting => 1
  | rising => 1
  | reporting => 2
  | asked => 3
  | settling => 3
  | settled => 3
  | parked => 4
  | woken => 4
  | lowering => 4
  | leaving => 5
  | done => 6
  | spawned => 6

/-- A request to terminate has come, and the tunnel is still up. -/
def heard : Point → Bool
  | asked => true
  | woken => true
  | lowering => true
  | _ => false

def stageAt (due established : Nat) : Point → Controller.Stage
  | spawned => .spawned
  | waiting => .sleeping due
  | settling => .settling due established
  | parked => .parked
  | woken => .woken
  | _ => .ready

def hasPermit : Point → Bool
  | asked => true
  | _ => false

/-- The controller at a point, whatever it waits for being due at any time. -/
def pose (sim : Simulation) (id due established : Nat) (cancelled : Bool) (point : Point) :
    Task where
  id
  script := sim.cycle
  stage := point.stageAt due established
  todo := acts sim point.place
  cancelled
  permit := point.hasPermit
  tunnelUp := decide (2 ≤ point.place) && decide (point.place ≤ 4)

def posture (sim : Simulation) (id due established : Nat) (cancelled permit : Bool)
    (point : Point) : Task :=
  { point.pose sim id due established cancelled with permit }

theorem stageAt_ne_exited (point : Point) (due established : Nat) :
    point.stageAt due established ≠ .exited := by
  cases point <;> nofun

/-- From one point to a later one, with the effect of the act. Only three acts reach the
dispatcher; the others keep what is pending. -/
inductive Leg : Point → Effect → Point → Prop
  | settle (established : Nat) : Leg settling (.settle established) settled
  | report : Leg reporting (.deliver (tunnelsNotice 1)) settled
  | retract : Leg leaving (.deliver (tunnelsNotice 0)) done
  | pass {point later : Point} {e : Effect} (aside : e.dispatches = false)
    (posted : later.posted = point.posted)
    (heard : later.heard.toNat + (if e = .lower then 1 else 0) ≤ point.heard.toNat) :
    Leg point e later

end Point

theorem recruit_pose {sim : Simulation} {plan : Controller.Plan} (same : plan = sim.plan)
    (fits : sim.Fits) (rig : Rig) :
    rig.recruit plan = Point.spawned.pose sim (rig.counters.constructed + 1) 0 0 false := by
  rw [same, Rig.recruit, plan_script fits]
  rfl

inductive Quits (t : Task) : Prop
  | shutting (stage : t.stage = .ready) (shuttingDown : t.shuttingDown = true)
    (quiet : ∀ act ∈ t.todo, Quiet act)
  | exited (stage : t.stage = .exited)

variable {sim : Simulation}

theorem quits_shutDown {t : Task} (script : t.script = sim.cycle) (permit : Bool) :
    Quits { t.shutDown with permit } := by
  refine .shutting rfl rfl ?_
  change ∀ act ∈ t.script.shutdown, Quiet act
  rw [script]
  simp [cycle, Quiet, establishes_peakNotice, establishes_meekPeakNotice]

/-- Where an act at a point of the cycle leads: to a later point or out of the cycle. -/
inductive Onward (sim : Simulation) (id : Nat) (cancelled : Bool) (point : Point) :
    Task → Effect → Prop
  | along {later : Point} {e : Effect} (due established : Nat) (leg : point.Leg e later) :
    Onward sim id cancelled point (later.pose sim id due established cancelled) e
  | out {t : Task} (quits : Quits t) : Onward sim id cancelled point t .none

section wait
variable (sim : Simulation) (id due established now : Nat) (cancelled heed permit : Bool)

theorem Point.step_starting_posture :
    (Point.starting.posture sim id due established cancelled permit).step now heed =
      if (cancelled && heed) = true then
        some ((Point.starting.posture sim id due established cancelled permit).shutDown, .none)
      else if sim.establishMs = 0 then
        some (Point.rising.posture sim id due established cancelled permit, .none)
      else
        some (Point.waiting.posture sim id (now + sim.establishMs) established cancelled permit,
          .none) := by
  by_cases instant : sim.establishMs = 0 <;> cases cancelled <;> cases heed <;>
    simp [instant, Task.step, Task.perform, Task.interrupted, posture, pose, stageAt, acts, place,
      cycle]

theorem Point.step_waiting_posture :
    (Point.waiting.posture sim id due established cancelled permit).step now heed =
      if (cancelled && (heed || decide (now < due))) = true then
        some ((Point.waiting.posture sim id due established cancelled permit).shutDown, .none)
      else if due ≤ now then
        some (Point.rising.posture sim id due established cancelled permit, .none)
      else none := by
  cases cancelled <;> rfl

theorem Point.step_starting_pose :
    (Point.starting.pose sim id due established cancelled).step now heed =
      if (cancelled && heed) = true then
        some ((Point.starting.pose sim id due established cancelled).shutDown, .none)
      else if sim.establishMs = 0 then
        some (Point.rising.pose sim id due established cancelled, .none)
      else
        some (Point.waiting.pose sim id (now + sim.establishMs) established cancelled, .none) :=
  step_starting_posture sim id due established now cancelled heed false

theorem Point.step_waiting_pose :
    (Point.waiting.pose sim id due established cancelled).step now heed =
      if (cancelled && (heed || decide (now < due))) = true then
        some ((Point.waiting.pose sim id due established cancelled).shutDown, .none)
      else if due ≤ now then some (Point.rising.pose sim id due established cancelled, .none)
      else none :=
  step_waiting_posture sim id due established now cancelled heed false

end wait

theorem Point.step_pose {point : Point} {id due established now : Nat} {cancelled heed : Bool}
    {mid : Task} {e : Effect}
    (h : (point.pose sim id due established cancelled).step now heed = some (mid, e)) :
    Onward sim id cancelled point mid e := by
  have out (permit : Bool) :
      Onward sim id cancelled point
        { (point.pose sim id due established cancelled).shutDown with permit } .none :=
    .out (quits_shutDown rfl permit)
  have pass (e : Effect) (later : Point) (due : Nat) (leg : point.Leg e later) :
      Onward sim id cancelled point (later.pose sim id due established cancelled) e :=
    .along due established leg
  cases point with
  | asked =>
    have on := pass .none .lowering due (.pass rfl rfl (by decide))
    cases cancelled <;> cases heed <;> cases h
    · exact on
    · exact on
    · exact on
    · exact out true
  | woken =>
    have on := pass .none .lowering due (.pass rfl rfl (by decide))
    cases cancelled <;> cases heed <;> cases h
    · exact on
    · exact on
    · exact on
    · exact out true
  | lowering =>
    cases h
    exact pass .lower .leaving due (.pass rfl rfl (by decide))
  | leaving =>
    cases h
    exact pass _ .done due .retract
  | done =>
    cases h
    exact pass .none .starting due (.pass rfl rfl (by decide))
  | spawned =>
    cases h
    exact pass .begin .starting due (.pass rfl rfl (by decide))
  | starting =>
    have risen := pass .none .rising due (.pass rfl rfl (by decide))
    have wait := pass .none .waiting (now + sim.establishMs)
      (.pass rfl rfl (by decide))
    rw [step_starting_pose] at h
    split at h
    · cases h
      exact out false
    · split at h <;> cases h
      · exact risen
      · exact wait
  | waiting =>
    have risen := pass .none .rising due (.pass rfl rfl (by decide))
    rw [step_waiting_pose] at h
    split at h
    · cases h
      exact out false
    · obtain ⟨-, same⟩ := Option.ite_none_right_eq_some.mp h
      cases same
      exact risen
  | rising =>
    cases h
    exact pass .raise .reporting due (.pass rfl rfl (by decide))
  | reporting =>
    cases h
    exact pass _ .settled due .report
  | settling =>
    obtain ⟨-, same⟩ := Option.ite_none_right_eq_some.mp h
    cases same
    exact pass _ .settled due (.settle established)
  | settled =>
    have on := pass .none .parked due (.pass rfl rfl (by decide))
    cases cancelled <;> cases heed <;> cases h
    · exact on
    · exact on
    · exact on
    · exact out false
  | parked =>
    cases cancelled <;> cases h
    exact out false

theorem Quits.step {t mid : Task} {now : Nat} {heed : Bool} {e : Effect} (quits : Quits t)
    (h : t.step now heed = some (mid, e)) :
    Quits mid ∧ e ≠ .lower ∧ e.establishes = false := by
  unfold Task.step at h
  cases quits with
  | exited stage =>
    rw [stage] at h
    cases h
  | shutting stage shuttingDown quiet =>
    simp only [stage] at h
    split at h
    · simp only [Task.endPart, shuttingDown, if_true] at h
      cases h
      exact ⟨.exited rfl, by decide, rfl⟩
    · rename_i act rest todo
      rw [todo, List.forall_mem_cons] at quiet
      obtain ⟨quiet, later⟩ := quiet
      cases act with
      | abandon =>
        cases h
        exact ⟨.shutting stage shuttingDown later, by decide, rfl⟩
      | emit notice =>
        cases h
        exact ⟨.shutting stage shuttingDown later, by simp, quiet⟩
      | _ => cases quiet

theorem Quits.cancel {t : Task} (quits : Quits t) : Quits t.cancel := by
  cases quits with
  | shutting stage shuttingDown quiet => exact .shutting stage shuttingDown quiet
  | exited stage => exact .exited stage

theorem Quits.terminate {t : Task} (quits : Quits t) : Quits t.terminate := by
  unfold Task.terminate
  split
  · exact quits
  · cases quits with
    | shutting stage shuttingDown quiet =>
      simp only [stage]
      exact .shutting rfl shuttingDown quiet
    | exited stage =>
      simp only [stage]
      exact .exited rfl

/-- How a controller stands to the requests that are pending and to the requests to terminate
that it was sent. -/
inductive Stance (sim : Simulation) (requests terminations sent : Nat) : Task → Prop
  | cycling (point : Point) (id due established : Nat) (cancelled : Bool)
    (pending : requests = point.posted.toNat) (heard : terminations + point.heard.toNat ≤ sent) :
    Stance sim requests terminations sent (point.pose sim id due established cancelled)
  | quitting {t : Task} (quits : Quits t) (pending : requests ≤ 1) (heard : terminations ≤ sent) :
    Stance sim requests terminations sent t

namespace Stance
variable {requests terminations sent : Nat} {t : Task}
  (stance : Stance sim requests terminations sent t)
include stance

theorem cancel : Stance sim requests terminations sent t.cancel := by
  cases stance with
  | cycling point id due established cancelled pending heard =>
    exact .cycling point id due established true pending heard
  | quitting quits pending heard => exact .quitting quits.cancel pending heard

theorem terminations_le : terminations ≤ sent := by
  cases stance with
  | cycling point id due established cancelled pending heard =>
    exact Nat.le_trans (Nat.le_add_right _ _) heard
  | quitting quits pending heard => exact heard

theorem single : requests + t.isSettling.toNat ≤ 1 := by
  cases stance with
  | cycling point id due established cancelled pending =>
    rw [pending]
    cases point <;> first | exact Nat.zero_le 1 | exact Nat.le_refl 1
  | quitting quits pending =>
    have awake : t.isSettling = false := by
      unfold Task.isSettling
      cases quits with
      | shutting stage => rw [stage]
      | exited stage => rw [stage]
    rw [awake]
    exact pending

theorem answered (parked : t.stage = .parked) : requests = 1 := by
  cases stance with
  | cycling point id due established cancelled pending =>
    rw [pending]
    cases point <;> first | rfl | cases parked
  | quitting quits =>
    cases quits with
    | shutting stage => rw [stage] at parked; cases parked
    | exited stage => rw [stage] at parked; cases parked

theorem exited (ended : t.stage = .exited) : requests ≤ 1 := by
  cases stance with
  | cycling point => exact absurd ended (point.stageAt_ne_exited _ _)
  | quitting quits pending => exact pending

end Stance

theorem Stance.terminate {terminations sent : Nat} {t : Task}
    (stance : Stance sim 1 terminations sent t) :
    Stance sim 0 terminations (sent + 1) t.terminate := by
  cases stance with
  | cycling point id due established cancelled pending heard =>
    have cycles (later : Point) (none : 0 = later.posted.toNat)
        (heard : terminations + later.heard.toNat ≤ sent + 1) :
        Stance sim 0 terminations (sent + 1) (later.pose sim id due established cancelled) :=
      .cycling later id due established cancelled none heard
    cases point with
    | settled => exact cycles .asked rfl (Nat.succ_le_succ heard)
    | parked => exact cycles .woken rfl (Nat.succ_le_succ heard)
    | _ => cases pending
  | quitting quits pending heard =>
    exact .quitting quits.terminate (Nat.zero_le _) (Nat.le_succ_of_le heard)

/-- Either an act posts nothing, or it reports a tunnel or ends its settle delay, and then no
request is pending beside it. -/
theorem Stance.step {requests terminations sent now : Nat} {t mid : Task} {heed : Bool} {e : Effect}
    (stance : Stance sim requests terminations sent t)
    (ran : t.step now heed = some (mid, e)) :
    (Stance sim requests (terminations + if e = .lower then 1 else 0) sent mid ∧
        e.establishes = false) ∨
      (requests = 0 ∧ terminations ≤ sent ∧ e.establishes = true ∧
        ∃ id due established cancelled,
          mid = Point.settled.pose sim id due established cancelled) := by
  cases stance with
  | quitting quits pending heard =>
    obtain ⟨quits, lowers, quiet⟩ := quits.step ran
    rw [if_neg lowers]
    exact .inl ⟨.quitting quits pending heard, quiet⟩
  | cycling point id due established cancelled pending heard =>
    cases Point.step_pose ran with
    | out quits =>
      refine .inl ⟨.quitting quits ?_ (Nat.le_trans (Nat.le_add_right _ _) heard), rfl⟩
      rw [pending]
      exact point.posted.toNat_le
    | along due established leg =>
      cases leg with
      | settle => exact .inr ⟨pending, heard, rfl, _, _, _, _, rfl⟩
      | report => exact .inr ⟨pending, heard, establishes_tunnelsNotice_one, _, _, _, _, rfl⟩
      | retract =>
        exact .inl ⟨.cycling .done id _ _ cancelled pending heard, establishes_tunnelsNotice_zero⟩
      | pass aside posted still =>
        refine .inl ⟨.cycling _ id _ _ cancelled ?_ ?_, Effect.establishes_of_aside aside⟩
        · rw [pending, posted]
        · omega

/-- An act keeps the stance with whatever the dispatcher makes of it, and no request is dropped.
There may be requests `early` that were taken while their controller was in its cycle. -/
theorem Stance.handled {coin : Nat → Bool} {d later : Dispatcher}
    {early terminations sent now : Nat} {t mid after : Task} {heed : Bool} {e : Effect}
    {ends : List Dispatched}
    (handled : Rig.Handled coin d now mid e later ends after)
    (isOpen : d.closed = false) (ran : t.step now heed = some (mid, e))
    (stance : Stance sim (d.requests + early) terminations sent t) :
    Stance sim (later.requests + early) (terminations + if e = .lower then 1 else 0) sent after ∧
      ∀ results, dropped (ends ++ results) = dropped results := by
  rcases stance.step ran with
    ⟨still, quiet⟩ | ⟨empty, heard, establishes, id, due, established, cancelled, rfl⟩
  · cases handled with
    | settled => cases quiet
    | atOnce establishes | delayed establishes =>
      cases quiet.symm.trans establishes
    | aside => exact ⟨still, fun _ => rfl⟩
    | quiet quiet none =>
      have ready : mid.stage = .ready := (Task.step_spec ran).2.1.2
      rw [← ready]
      exact ⟨still, fun results => Dispatcher.dropped_cons_aside results none⟩
  · -- nothing is pending, so the slot of the new request is empty, whichever it is
    have slots : d.requests = 0 := by omega
    have none : early = 0 := by omega
    subst none
    cases handled with
    | quiet quiet => cases quiet.symm.trans establishes
    | aside aside =>
      rw [Effect.establishes_of_aside aside] at establishes
      cases establishes
    | settled =>
      obtain ⟨request, posted, one⟩ := Dispatcher.settle_of_empty coin isOpen slots
      rw [posted]
      exact ⟨.cycling .settled id due established cancelled one heard,
        Dispatcher.dropped_cons_posted request⟩
    | atOnce =>
      obtain ⟨request, posted, one⟩ := Dispatcher.settle_of_empty coin (d := d.counted) isOpen slots
      rw [posted]
      exact ⟨.cycling .settled id due established cancelled one heard,
        Dispatcher.dropped_cons_posted request⟩
    | delayed => exact ⟨.cycling .settling id _ _ cancelled slots heard, fun _ => rfl⟩

end TunnelSoak.Simulation
