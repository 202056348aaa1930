import TunnelSoak.Proofs.Rig.Acts

/-! The roster: which controllers were started, which of them is there now and which have
panicked. Controllers are numbered in the order in which they are started, so the one
that is there is the one started last, and no number is used twice. -/
namespace TunnelSoak

open Controller (Task)
open History

namespace Event

def started? : Event → Option Nat
  | .controllerStarted controller _ => some controller
  | _ => none

def isStaffing : Event → Bool
  | .controllerStarted _ _ => true
  | .terminateSent _ => true
  | .controllerCrashed _ _ _ => true
  | _ => false

end Event

namespace History

def started (h : History) : List Nat := h.filterMap fun e => e.event.started?

/-- A request to terminate goes to the controller that was started last. -/
def Addressed (e : Entry) (before : History) : Prop :=
  ∀ controller, e.event = .terminateSent controller → (started before).head? = some controller

section byController
variable {events h : History} (own : ∀ e ∈ events, e.event.byController = true)
include own

theorem started_own : started (events ++ h) = started h := by
  apply filterMap_pass
  intro e he
  have mine := own e he
  revert mine
  cases e.event <;> simp [Event.byController, Event.started?]

theorem addressed_own (all : Throughout Addressed h) : Throughout Addressed (events ++ h) := by
  apply all.append
  intro e he before controller sent
  have mine := own e he
  rw [sent] at mine
  cases mine

end byController

section isStaffing
variable {events h : History} (aside : ∀ e ∈ events, e.event.isStaffing = false)
include aside

theorem started_aside : started (events ++ h) = started h := by
  apply filterMap_pass
  intro e he
  have other := aside e he
  revert other
  cases e.event <;> simp [Event.isStaffing, Event.started?]

theorem crashes_aside : crashes (events ++ h) = crashes h := by
  apply append_unchanged crashes
  intro e he before
  apply crashes_pass
  have other := aside e he
  revert other
  cases e.event <;> simp [Event.isStaffing, Event.crash?]

theorem addressed_aside (all : Throughout Addressed h) : Throughout Addressed (events ++ h) := by
  apply all.append
  intro e he before controller sent
  have other := aside e he
  rw [sent] at other
  cases other

end isStaffing

end History

namespace Rig

structure Roster (rig : Rig) : Prop where
  starts : rig.lifecycle.starts = (started rig.trace).length
  constructed : rig.counters.constructed = (started rig.trace).length
  latest : ∀ t ∈ rig.tasks, (started rig.trace).head? = some t.id
  numbered : ∀ t ∈ rig.tasks, t.id = rig.counters.constructed
  crashed : ∀ t ∈ rig.tasks, t.id ∈ crashes rig.trace ↔ t.hasCrashed = true
  bounded : ∀ id ∈ crashes rig.trace, id ≤ rig.counters.constructed
  addressed : Throughout Addressed rig.trace

theorem Roster.new (dispatcher : Dispatcher) : ({ dispatcher } : Rig).Roster where
  starts := rfl
  constructed := rfl
  latest := List.forall_mem_nil _
  numbered := List.forall_mem_nil _
  crashed := List.forall_mem_nil _
  bounded := List.forall_mem_nil _
  addressed := trivial

namespace Roster
variable {rig next : Rig} {t after : Task} (roster : rig.Roster)
include roster

theorem carry (events : List Entry) (trace : next.trace = events ++ rig.trace)
    (aside : ∀ e ∈ events, e.event.isStaffing = false)
    (starts : next.lifecycle.starts = rig.lifecycle.starts)
    (constructed : next.counters.constructed = rig.counters.constructed)
    (same : ∀ t ∈ next.tasks, ∃ u ∈ rig.tasks, u.id = t.id ∧ u.hasCrashed = t.hasCrashed) :
    next.Roster := by
  refine ⟨?_, ?_, ?_, ?_, ?_, ?_, ?_⟩
  · rw [trace, started_aside aside, starts]
    exact roster.starts
  · rw [trace, started_aside aside, constructed]
    exact roster.constructed
  · intro t mem
    obtain ⟨u, mem, id, -⟩ := same t mem
    rw [trace, started_aside aside, ← id]
    exact roster.latest u mem
  · intro t mem
    obtain ⟨u, mem, id, -⟩ := same t mem
    rw [constructed, ← id]
    exact roster.numbered u mem
  · intro t mem
    obtain ⟨u, mem, id, crash⟩ := same t mem
    rw [trace, crashes_aside aside, ← id, ← crash]
    exact roster.crashed u mem
  · rw [trace, crashes_aside aside, constructed]
    exact roster.bounded
  · rw [trace]
    exact addressed_aside aside roster.addressed

theorem carry_sole (events : List Entry) (sole : rig.tasks = [t])
    (trace : next.trace = events ++ rig.trace)
    (aside : ∀ e ∈ events, e.event.isStaffing = false) (tasks : next.tasks = [after])
    (starts : next.lifecycle.starts = rig.lifecycle.starts)
    (constructed : next.counters.constructed = rig.counters.constructed)
    (id : t.id = after.id) (crash : t.hasCrashed = after.hasCrashed) : next.Roster := by
  apply roster.carry events trace aside starts constructed
  rw [tasks, sole, List.forall_mem_singleton]
  exact ⟨t, List.mem_singleton_self t, id, crash⟩

theorem record {event : Event} (aside : event.isStaffing = false) : (rig.record event).Roster :=
  roster.carry [_] rfl (by simpa using aside) rfl rfl fun t mem => ⟨t, mem, rfl, rfl⟩

theorem elapse (time : Nat) : ({ rig with now := time } : Rig).Roster :=
  roster.carry [] rfl (List.forall_mem_nil _) rfl rfl fun t mem => ⟨t, mem, rfl, rfl⟩

theorem released (sole : rig.tasks = [t]) : (rig.released t).Roster :=
  roster.carry_sole [] sole rfl (List.forall_mem_nil _) rfl rfl rfl rfl rfl

theorem vacated {event : Event} (aside : event.isStaffing = false) : (rig.vacated event).Roster :=
  roster.carry [⟨rig.now, event⟩] rfl (by simpa using aside) rfl rfl (List.forall_mem_nil _)

theorem joined {stopped : Except Failure Unit} (joined : rig.Joined t stopped next) :
    next.Roster := by
  cases joined with
  | exited => exact roster.vacated rfl
  | crashed => exact roster.vacated rfl

theorem refused (failure : Failure) : (rig.refused failure).Roster :=
  roster.carry [_] rfl (by simp [Event.isStaffing]) rfl rfl fun t mem => ⟨t, mem, rfl, rfl⟩

theorem prodded (sole : rig.tasks = [t]) : (rig.prodded t).Roster := by
  obtain ⟨starts, constructed, latest, numbered, crashed, bounded, addressed⟩ := roster
  rw [sole, List.forall_mem_singleton] at latest numbered crashed
  have tasks : (rig.prodded t).tasks = [t.terminate] := rfl
  refine ⟨starts, constructed, ?_, ?_, ?_, bounded, ?_, addressed⟩
  · rw [tasks, List.forall_mem_singleton, Task.terminate_id]
    exact latest
  · rw [tasks, List.forall_mem_singleton, Task.terminate_id]
    exact numbered
  · rw [tasks, List.forall_mem_singleton, Task.terminate_id, Task.terminate_hasCrashed]
    exact crashed
  · intro controller sent
    cases sent
    exact latest

theorem staffed (plan : Controller.Plan) (vacant : rig.tasks = []) : (rig.staffed plan).Roster := by
  obtain ⟨starts, constructed, -, -, -, bounded, addressed⟩ := roster
  have tasks : (rig.staffed plan).tasks = [rig.recruit plan] :=
    congrArg (rig.recruit plan :: ·) vacant
  refine ⟨congrArg (· + 1) starts, congrArg (· + 1) constructed, ?_, ?_, ?_, ?_, ?_, addressed⟩
  · rw [tasks, List.forall_mem_singleton]
    rfl
  · rw [tasks, List.forall_mem_singleton]
    rfl
  · rw [tasks, List.forall_mem_singleton]
    constructor
    · intro crashed
      have low := bounded _ crashed
      exact absurd low (Nat.not_succ_le_self _)
    · intro crashed
      cases crashed
  · intro id crashed
    exact Nat.le_succ_of_le (bounded id crashed)
  · intro controller sent
    cases sent

theorem act {coin : Nat → Bool} {id : Nat} {heed : Bool} (sole : rig.tasks = [t])
    (stepped : rig.stepTask coin id heed = some next) : next.Roster := by
  obtain ⟨working, after, acted⟩ := acted coin sole stepped
  obtain ⟨events, trace, own⟩ := acted.own
  have own : ∀ e ∈ events, e.event.byController = true := fun e he => (own e he).2
  obtain ⟨starts, constructed, latest, numbered, crashed, bounded, addressed⟩ := roster
  rw [sole, List.forall_mem_singleton] at latest numbered crashed
  have sound : t.id ∉ crashes rig.trace := by
    rw [crashed, Task.not_hasCrashed working]
    decide
  refine ⟨?_, ?_, ?_, ?_, ?_, ?_, ?_⟩
  · rw [trace, started_own own, acted.lifecycle]
    exact starts
  · rw [trace, started_own own, acted.constructed]
    exact constructed
  · rw [acted.tasks, List.forall_mem_singleton, trace, started_own own, acted.kept.id]
    exact latest
  · rw [acted.tasks, List.forall_mem_singleton, acted.kept.id, acted.constructed]
    exact numbered
  · rw [acted.tasks, List.forall_mem_singleton, acted.kept.id, acted.crashes]
    cases after.hasCrashed <;> simp [sound]
  · intro id panicked
    rw [acted.crashes, List.mem_append] at panicked
    rw [acted.constructed]
    rcases panicked with before | fresh
    · exact bounded id before
    · split at fresh
      · rw [List.mem_singleton.mp fresh]
        exact Nat.le_of_eq numbered
      · cases fresh
  · rw [trace]
    exact addressed_own own addressed

end Roster

end Rig

end TunnelSoak
