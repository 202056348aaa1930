import TunnelSoak.Proofs.Dispatcher.Balance
import TunnelSoak.Proofs.Rig.Acts

/-! What the acts of a controller come to at the dispatcher. Of all its acts only two
reach it: a delivery, and the end of a settle delay. Everything else leaves the
dispatcher alone, so a property of the dispatcher has five cases to survive. -/
namespace TunnelSoak

open Controller (Task Effect)

namespace Event

def result? : Event → Option Dispatched
  | .dispatched result => some result
  | _ => none

def taken? : Event → Option Request
  | .requestTaken request => some request
  | _ => none

end Event

namespace History

/-- How the deliveries ended, the latest first. -/
def results (h : History) : List Dispatched := h.filterMap fun e => e.event.result?

def taken (h : History) : List Request := h.filterMap fun e => e.event.taken?

theorem taken_own {events h : History} (own : ∀ e ∈ events, e.event.byController = true) :
    taken (events ++ h) = taken h := by
  apply filterMap_pass
  intro e he
  have mine := own e he
  revert mine
  cases e.event <;> simp [Event.byController, Event.taken?]

end History

namespace Controller

namespace Effect

def settles : Effect → Bool
  | .settle _ => true
  | _ => false

def dispatches : Effect → Bool
  | .deliver _ => true
  | .settle _ => true
  | _ => false

/-- The act brings an establishment, or the end of its settle delay. -/
def establishes : Effect → Bool
  | .deliver notice => Notice.establishes notice
  | .settle _ => true
  | _ => false

theorem settles_of_aside {e : Effect} (aside : e.dispatches = false) : e.settles = false := by
  cases e <;> first | rfl | cases aside

theorem establishes_of_aside {e : Effect} (aside : e.dispatches = false) :
    e.establishes = false := by
  cases e <;> first | rfl | cases aside

end Effect

/-- A controller steps out of its settle delay by ending it, and never into one: that is up to
the dispatcher. -/
theorem Task.step_isSettling {now : Nat} {heed : Bool} {t after : Task} {e : Effect}
    (h : t.step now heed = some (after, e)) :
    after.isSettling = false ∧ t.isSettling = e.settles := by
  cases Task.stepped h with
  | begin stage | exit stage | again stage | finish stage | settle stage | deliver stage
  | crash stage | sleep stage | park stage =>
    simp [Task.isSettling, Effect.settles, stage]
  | quit permit live settled => exact ⟨rfl, settled⟩
  | resume waited =>
    rcases waited with stage | ⟨due, -, stage⟩ <;>
      simp [Task.isSettling, Effect.settles, stage]
  | pass permit tunnelUp stage todo instant plain =>
    rcases plain with rfl | rfl | rfl <;> simp [Task.isSettling, Effect.settles, stage]

end Controller

namespace Dispatcher

def counted (d : Dispatcher) : Dispatcher := { d with tracker := d.tracker.increment }

@[simp] theorem counted_pending (d : Dispatcher) (request : Request) :
    d.counted.pending request = d.pending request := by
  cases request <;> rfl

@[simp] theorem settle_closed (coin : Nat → Bool) (d : Dispatcher) :
    (d.settle coin).2.closed = d.closed := by
  rcases d.settle_cases coin with ⟨-, settled⟩ | ⟨-, -, settled⟩
  · rw [settled]
    rfl
  · rw [settled, setPending_closed]
    rfl

end Dispatcher

namespace Rig

variable {rig next : Rig} {t mid : Task} {e : Effect}

/-- What becomes at the dispatcher of an act that leaves the controller as `mid`, apart from
that: the results, and the controller afterwards. -/
inductive Handled (coin : Nat → Bool) (d : Dispatcher) (now : Nat) (mid : Task) :
    Effect → Dispatcher → List Dispatched → Task → Prop
  | settled (established : Nat) :
    Handled coin d now mid (.settle established) (d.settle coin).2 [(d.settle coin).1]
      { mid with stage := .ready }
  | quiet {notice : List UInt8} {result : Dispatched}
    (quiet : Notice.establishes notice = false) (none : result.request? = none) :
    Handled coin d now mid (.deliver notice) d [result] { mid with stage := .ready }
  | atOnce {notice : List UInt8} (establishes : Notice.establishes notice = true)
    (instant : d.settleMs = 0) :
    Handled coin d now mid (.deliver notice) (d.counted.settle coin).2
      [(d.counted.settle coin).1] { mid with stage := .ready }
  | delayed {notice : List UInt8} (establishes : Notice.establishes notice = true)
    (late : d.settleMs ≠ 0) :
    Handled coin d now mid (.deliver notice) d.counted []
      { mid with stage := .settling (now + d.settleMs) (d.tracker.established + 1) }
  | aside {e : Effect} (aside : e.dispatches = false) : Handled coin d now mid e d [] mid

/-- An act of the only controller, as far as deliveries and requests go. -/
structure Worked (coin : Nat → Bool) (rig next : Rig) (mid : Task) (e : Effect) : Prop where
  handled : ∃ results after,
    Handled coin rig.dispatcher rig.now mid e next.dispatcher results after ∧
      next.tasks = [after] ∧
      History.results next.trace = results ++ History.results rig.trace
  terminations : next.counters.terminations =
    rig.counters.terminations + if e = .lower then 1 else 0

theorem filterMap_stamped {α : Type} (f : Event → Option α) (rig : Rig) (events : List Event)
    (h : History) : (rig.stamped events ++ h).filterMap (fun e => f e.event) =
      (events.filterMap f).reverse ++ h.filterMap fun e => f e.event := by
  unfold stamped
  rw [List.filterMap_append, List.filterMap_reverse, List.filterMap_map]
  rfl

theorem results_stamped (rig : Rig) (events : List Event) (h : History) :
    History.results (rig.stamped events ++ h) =
      (events.filterMap Event.result?).reverse ++ History.results h :=
  filterMap_stamped Event.result? rig events h

@[simp] theorem filterMap_opening (id : Nat) (notice : List UInt8) :
    (opening id notice).filterMap Event.result? = [] := by
  have arrival : (Event.ofArrival notice).filterMap Event.result? = [] := by
    unfold Event.ofArrival
    (repeat' split) <;> rfl
  exact arrival

@[simp] theorem filterMap_closing (established : Nat) (result : Dispatched) :
    (closing established result).filterMap Event.result? = [result] := by
  cases result <;> rfl

theorem worked_of_deliver (coin : Nat → Bool) (rig : Rig) (mid : Task) (notice : List UInt8) :
    Worked coin rig ((rig.withTask mid).deliver coin mid.id notice) mid (.deliver notice) := by
  have sole := rig.withTask_tasks mid
  cases establishes : Notice.establishes notice with
  | false =>
    obtain ⟨result, none, arrived⟩ := rig.dispatcher.arrive_quiet establishes
    rw [deliver_finished coin sole arrived]
    refine ⟨⟨[result], _, .quiet establishes none, rfl, ?_⟩, rfl⟩
    rw [results_stamped]
    simp [Event.result?, withTask]
  | true =>
    have arrived := rig.dispatcher.arrive_of_establishes establishes
    by_cases instant : rig.dispatcher.settleMs = 0
    · rw [deliver_at_once coin sole arrived instant]
      refine ⟨⟨_, _, .atOnce establishes instant, rfl, ?_⟩, rfl⟩
      rw [results_stamped]
      simp [withTask, Dispatcher.counted]
    · rw [deliver_settling coin sole arrived instant]
      refine ⟨⟨[], _, .delayed establishes instant, rfl, ?_⟩, rfl⟩
      rw [results_stamped]
      simp [withTask]

theorem worked (coin : Nat → Bool) (sole : rig.tasks = [t]) {id : Nat} {heed : Bool}
    (h : rig.stepTask coin id heed = some next) :
    ∃ mid e, t.step rig.now heed = some (mid, e) ∧ Worked coin rig next mid e := by
  obtain ⟨rfl, mid, e, stepped, rfl⟩ := (stepTask_sole coin sole id heed).mp h
  obtain ⟨kept, -, -⟩ := Task.step_spec stepped
  refine ⟨mid, e, stepped, ?_⟩
  rw [← kept.id]
  cases e with
  | deliver notice => exact worked_of_deliver coin rig mid notice
  | settle established =>
    simp only [effect, settle_eq coin (rig.withTask_tasks mid)]
    refine ⟨⟨_, _, .settled established, rfl, ?_⟩, rfl⟩
    rw [results_stamped]
    simp [withTask]
  | none | begin | raise | lower | exit | crash =>
    exact ⟨⟨[], mid, .aside rfl, rfl, rfl⟩, rfl⟩

namespace Handled
variable {coin : Nat → Bool} {d later : Dispatcher} {now : Nat} {results : List Dispatched}
  {after : Task} (handled : Handled coin d now mid e later results after)
include handled

theorem after_eq : ∃ stage, after = { mid with stage } := by
  cases handled <;> exact ⟨_, rfl⟩

theorem of_aside (aside : e.dispatches = false) : later = d ∧ results = [] ∧ after = mid := by
  cases handled with
  | aside => exact ⟨rfl, rfl, rfl⟩
  | settled | quiet | atOnce | delayed => cases aside

theorem hasCrashed (crashed : after.hasCrashed = true) : mid.hasCrashed = true := by
  cases handled with
  | aside => exact crashed
  | settled | quiet | atOnce | delayed => cases crashed

theorem settleMs : later.settleMs = d.settleMs := by
  cases handled with
  | settled | atOnce => exact Dispatcher.settle_settleMs coin _
  | quiet | delayed | aside => rfl

theorem closed : later.closed = d.closed := by
  cases handled with
  | settled | atOnce => exact Dispatcher.settle_closed coin _
  | quiet | delayed | aside => rfl

/-- The balance takes in the results, and the controller's own establishment while it settles. -/
theorem balanced {before : List Dispatched} {taken : List Request} {heed : Bool}
    (stepped : t.step now heed = some (mid, e))
    (balanced : d.Balanced before taken t.isSettling.toNat) :
    later.Balanced (results ++ before) taken after.isSettling.toNat := by
  obtain ⟨still, settles⟩ := Task.step_isSettling stepped
  rw [settles] at balanced
  cases handled with
  | settled => exact balanced.settled coin
  | quiet quiet none => exact balanced.aside none
  | atOnce => exact balanced.arrived.settled coin
  | delayed => exact balanced.arrived
  | aside aside =>
    rw [Effect.settles_of_aside aside] at balanced
    rw [still]
    exact balanced

end Handled

end Rig

end TunnelSoak
