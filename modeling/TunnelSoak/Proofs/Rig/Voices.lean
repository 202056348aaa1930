import TunnelSoak.Proofs.Rig.Deliveries

/-! What controllers say. The trace tells which notices each of them has emitted and which of
them have exited, and that a notice about peak concurrency is surfaced as soon as it is
emitted, whoever emits it and whatever else the dispatcher has to do. -/
namespace TunnelSoak

open Controller (Task Effect)

def Notice.peakMessage? (notice : List UInt8) : Option String :=
  match Notice.classify notice with
  | some (.info message) => if Notice.isPeakMessage message then some message else none
  | _ => none

namespace Event

def emission? : Event → Option (Nat × List UInt8)
  | .noticeEmitted controller notice => some (controller, notice)
  | _ => none

def exit? : Event → Option Nat
  | .controllerExited controller _ => some controller
  | _ => none

def isPeak : Event → Bool
  | .noticeEmitted _ notice => (Notice.peakMessage? notice).isSome
  | _ => false

/-- Nothing is emitted and nobody exits. -/
def isSilent : Event → Bool
  | .noticeEmitted _ _ => false
  | .controllerExited _ _ => false
  | _ => true

theorem isPeak_of_isSilent {event : Event} (silent : event.isSilent = true) :
    event.isPeak = false := by
  cases event <;> first | rfl | cases silent

end Event

def Controller.Effect.notices : Effect → List (List UInt8)
  | .deliver notice => [notice]
  | _ => []

theorem Controller.Effect.notices_of_aside {e : Effect} (aside : e.dispatches = false) :
    e.notices = [] := by
  cases e <;> first | rfl | cases aside

namespace History

/-- The notices that were emitted, each with its controller, the latest first. -/
def emissions (h : History) : List (Nat × List UInt8) := h.filterMap fun e => e.event.emission?

def emittedBy (id : Nat) (h : History) : List (List UInt8) :=
  (((emissions h).filter fun said => said.1 = id).map Prod.snd).reverse

def emittedTimes (notice : List UInt8) (h : History) : Nat :=
  ((emissions h).map Prod.snd).count notice

def exited (h : History) : List Nat := h.filterMap fun e => e.event.exit?

/-- Every notice about peak concurrency is shown and surfaced at the moment it is emitted. -/
inductive Surfacing : History → Prop
  | nil : Surfacing []
  | other {e : Entry} {h : History} (plain : e.event.isPeak = false) (before : Surfacing h) :
    Surfacing (e :: h)
  | peak {time id : Nat} {notice : List UInt8} {message : String} {h : History}
    (peak : Notice.peakMessage? notice = some message) (before : Surfacing h) :
    Surfacing (⟨time, .dispatched .surfaced⟩ :: ⟨time, .diagnostic message⟩ ::
      ⟨time, .noticeEmitted id notice⟩ :: h)

theorem Surfacing.append {events h : History} (plain : ∀ e ∈ events, e.event.isPeak = false)
    (surfacing : Surfacing h) : Surfacing (events ++ h) := by
  induction events with
  | nil => exact surfacing
  | cons e events ih =>
    rw [List.forall_mem_cons] at plain
    exact .other plain.1 (ih plain.2)

theorem Surfacing.at {after before : History} {e : Entry} {id : Nat} {notice : List UInt8}
    {message : String} (surfacing : Surfacing (after ++ e :: before))
    (emitted : e.event = .noticeEmitted id notice)
    (peak : Notice.peakMessage? notice = some message) :
    ∃ later, after = later ++ [⟨e.time, .dispatched .surfaced⟩, ⟨e.time, .diagnostic message⟩] := by
  generalize whole : after ++ e :: before = h at surfacing
  induction surfacing generalizing after with
  | nil => cases List.append_eq_nil_iff.mp whole |>.2
  | @other first h plain surfacing ih =>
    rcases List.append_eq_cons_iff.mp whole with ⟨rfl, same⟩ | ⟨rest, rfl, same⟩
    · cases same
      rw [emitted, Event.isPeak, peak] at plain
      cases plain
    · obtain ⟨later, rfl⟩ := ih same.symm
      exact ⟨first :: later, rfl⟩
  | @peak time other own text h known surfacing ih =>
    -- the three entries of one notice are taken off one by one until `e` is found
    rcases List.append_eq_cons_iff.mp whole with ⟨rfl, first⟩ | ⟨after, rfl, second⟩
    · cases first
      cases emitted
    rcases List.append_eq_cons_iff.mp second.symm with ⟨rfl, first⟩ | ⟨after, rfl, third⟩
    · cases first
      cases emitted
    rcases List.append_eq_cons_iff.mp third.symm with ⟨rfl, first⟩ | ⟨after, rfl, rest⟩
    · cases first
      cases emitted
      rw [peak] at known
      cases known
      exact ⟨[], rfl⟩
    · obtain ⟨later, rfl⟩ := ih rest.symm
      exact ⟨_ :: _ :: _ :: later, rfl⟩

section isSilent
variable {events h : History} (silent : ∀ e ∈ events, e.event.isSilent = true)
include silent

theorem emissions_silent : emissions (events ++ h) = emissions h := by
  apply filterMap_pass
  intro e he
  have quiet := silent e he
  revert quiet
  cases e.event <;> simp [Event.isSilent, Event.emission?]

theorem exited_silent : exited (events ++ h) = exited h := by
  apply filterMap_pass
  intro e he
  have quiet := silent e he
  revert quiet
  cases e.event <;> simp [Event.isSilent, Event.exit?]

end isSilent

theorem exited_ofDelivery {events h : History}
    (notices : ∀ e ∈ events, e.event.ofDelivery = true) : exited (events ++ h) = exited h := by
  apply filterMap_pass
  intro e he
  have delivered := notices e he
  revert delivered
  cases e.event <;> simp [Event.ofDelivery, Event.exit?]

end History

namespace Rig
open History

variable {rig next : Rig} {t mid : Task} {e : Effect}

namespace Handled
variable {coin : Nat → Bool} {d later : Dispatcher} {now : Nat} {results : List Dispatched}
  {after : Task} (handled : Handled coin d now mid e later results after)
include handled

theorem exited {heed : Bool} (ran : t.step now heed = some (mid, e)) :
    after.stage = .exited ↔ e = .exit := by
  obtain ⟨-, announced, -⟩ := Task.step_spec ran
  cases handled with
  | settled | quiet | atOnce | delayed => exact ⟨nofun, nofun⟩
  | aside aside =>
    cases e with
    | exit => exact ⟨fun _ => rfl, fun _ => announced.2⟩
    | begin | crash =>
      refine ⟨fun exited => ?_, nofun⟩
      cases announced.2.symm.trans exited
    | none | raise | lower => exact ⟨fun exited => absurd exited announced.2.2.1, nofun⟩
    | deliver | settle => cases aside

theorem eq_of_quiet (quiet : e.establishes = false)
    (ready : e.dispatches = true → mid.stage = .ready) : after = mid := by
  cases handled with
  | settled => cases quiet
  | quiet => rw [← ready rfl]
  | atOnce establishes | delayed establishes => cases quiet.symm.trans establishes
  | aside => rfl

theorem tracker : later.tracker.established =
    d.tracker.established + e.notices.countP Notice.establishes := by
  cases handled with
  | settled => exact congrArg Tracker.established (Dispatcher.settle_tracker coin d)
  | quiet quiet => simp [Effect.notices, quiet]
  | atOnce establishes =>
    rw [Dispatcher.settle_tracker, Effect.notices, List.countP_singleton, if_pos establishes]
    rfl
  | delayed establishes =>
    rw [Effect.notices, List.countP_singleton, if_pos establishes]
    rfl
  | aside aside =>
    rw [Effect.notices_of_aside aside]
    rfl

end Handled

structure Voiced (rig next : Rig) (t : Task) (e : Effect) : Prop where
  emissions : emissions next.trace = e.notices.map (t.id, ·) ++ emissions rig.trace
  exited : exited next.trace = (if e = .exit then [t.id] else []) ++ exited rig.trace
  surfacing : Surfacing rig.trace → Surfacing next.trace
  established : next.counters.established =
    rig.counters.established + if e = .raise then 1 else 0

namespace Voiced
variable (voiced : Voiced rig next t e)
include voiced

theorem emittedBy : emittedBy t.id next.trace = emittedBy t.id rig.trace ++ e.notices := by
  unfold History.emittedBy
  rw [voiced.emissions]
  cases e <;> simp [Effect.notices]

theorem emittedBy_other {id : Nat} (other : t.id ≠ id) :
    History.emittedBy id next.trace = History.emittedBy id rig.trace := by
  unfold History.emittedBy
  rw [voiced.emissions]
  cases e <;> simp [Effect.notices, other]

theorem emittedTimes (notice : List UInt8) :
    emittedTimes notice next.trace = emittedTimes notice rig.trace + e.notices.count notice := by
  unfold History.emittedTimes
  rw [voiced.emissions, List.map_append, List.count_append, List.map_map, Nat.add_comm]
  congr 2
  exact List.map_id _

theorem mem_exited {id : Nat} :
    id ∈ History.exited next.trace ↔ e = .exit ∧ t.id = id ∨ id ∈ History.exited rig.trace := by
  rw [voiced.exited, List.mem_append]
  by_cases exit : e = .exit <;> simp [exit, eq_comm]

end Voiced

@[simp] theorem emission_opening (id : Nat) (notice : List UInt8) :
    (opening id notice).filterMap Event.emission? = [(id, notice)] := by
  have arrival : (Event.ofArrival notice).filterMap Event.emission? = [] := by
    unfold Event.ofArrival
    (repeat' split) <;> rfl
  exact congrArg ((id, notice) :: ·) arrival

@[simp] theorem emission_closing (established : Nat) (result : Dispatched) :
    (closing established result).filterMap Event.emission? = [] := by
  cases result <;> rfl

theorem isPeak_closing {established : Nat} {result : Dispatched} {event : Event}
    (h : event ∈ closing established result) : event.isPeak = false := by
  revert h
  cases result <;> simp +contextual [closing, Event.ofSettled, Event.isPeak, or_imp]

theorem isPeak_opening {id : Nat} {notice : List UInt8} {event : Event}
    (plain : Notice.peakMessage? notice = none) (h : event ∈ opening id notice) :
    event.isPeak = false := by
  rcases List.mem_cons.mp h with rfl | h
  · simp [Event.isPeak, plain]
  · revert h
    unfold Event.ofArrival
    (repeat' split) <;> simp +contextual [Event.isPeak]

theorem arrive_peak (d : Dispatcher) {notice : List UInt8} {message : String}
    (peak : Notice.peakMessage? notice = some message) :
    d.arrive notice = (.finished .surfaced, d) ∧
      Event.ofArrival notice = [.diagnostic message] := by
  unfold Notice.peakMessage? at peak
  unfold Dispatcher.arrive Event.ofArrival
  split at peak
  · rename_i text classified
    obtain ⟨shown, same⟩ := Option.ite_none_right_eq_some.mp peak
    cases same
    simp [classified, shown]
  · cases peak

theorem Voiced.ofDelivery {notice : List UInt8} (events : List Event)
    (trace : next.trace = rig.stamped (opening t.id notice ++ events) ++ rig.trace)
    (established : next.counters.established = rig.counters.established)
    (unsaid : events.filterMap Event.emission? = [])
    (own : ∀ event ∈ events, event.ofDelivery = true)
    (surfacing : Surfacing rig.trace → Surfacing next.trace) :
    Voiced rig next t (.deliver notice) := by
  refine ⟨?_, ?_, surfacing, established⟩
  · rw [trace]
    change List.filterMap (fun e : Entry => e.event.emission?) _ = _
    rw [filterMap_stamped, List.filterMap_append, emission_opening, unsaid]
    rfl
  · rw [trace]
    apply exited_ofDelivery
    intro e he
    rcases List.mem_append.mp (mem_stamped he).2 with opened | rest
    · exact ofDelivery_opening opened
    · exact own _ rest

theorem surfacing_plain {id : Nat} {notice : List UInt8} (events : List Event)
    (trace : next.trace = rig.stamped (opening id notice ++ events) ++ rig.trace)
    (plain : Notice.peakMessage? notice = none) (others : ∀ event ∈ events, event.isPeak = false)
    (before : Surfacing rig.trace) : Surfacing next.trace := by
  rw [trace]
  apply before.append
  intro e he
  rcases List.mem_append.mp (mem_stamped he).2 with opened | rest
  · exact isPeak_opening plain opened
  · exact others _ rest

theorem voiced_of_deliver (coin : Nat → Bool) (rig : Rig) (mid : Task) (notice : List UInt8) :
    Voiced rig ((rig.withTask mid).deliver coin mid.id notice) mid (.deliver notice) := by
  have sole := rig.withTask_tasks mid
  cases peak : Notice.peakMessage? notice with
  | some message =>
    obtain ⟨arrived, shown⟩ := arrive_peak rig.dispatcher peak
    rw [deliver_finished coin sole arrived]
    refine .ofDelivery [.dispatched .surfaced] rfl rfl rfl (by simp [Event.ofDelivery]) ?_
    intro before
    rw [opening, shown]
    exact .peak peak before
  | none =>
    cases establishes : Notice.establishes notice with
    | false =>
      obtain ⟨result, -, arrived⟩ := rig.dispatcher.arrive_quiet establishes
      rw [deliver_finished coin sole arrived]
      exact .ofDelivery [.dispatched result] rfl rfl rfl (by simp [Event.ofDelivery])
        (surfacing_plain _ rfl peak (by simp [Event.isPeak]))
    | true =>
      have arrived := rig.dispatcher.arrive_of_establishes establishes
      by_cases instant : rig.dispatcher.settleMs = 0
      · rw [deliver_at_once coin sole arrived instant]
        exact .ofDelivery _ rfl rfl (emission_closing _ _) (fun _ => ofDelivery_closing)
          (surfacing_plain _ rfl peak fun _ => isPeak_closing)
      · rw [deliver_settling coin sole arrived instant]
        have trace : rig.stamped (opening mid.id notice) ++ rig.trace =
            rig.stamped (opening mid.id notice ++ []) ++ rig.trace := by
          rw [List.append_nil]
        exact .ofDelivery [] trace rfl rfl (List.forall_mem_nil _)
          (surfacing_plain [] trace peak (List.forall_mem_nil _))

theorem voiced (coin : Nat → Bool) (sole : rig.tasks = [t]) {id : Nat} {heed : Bool}
    (ran : t.step rig.now heed = some (mid, e))
    (h : rig.stepTask coin id heed = some next) : Voiced rig next t e := by
  obtain ⟨rfl, other, act, stepped, rfl⟩ := (stepTask_sole coin sole id heed).mp h
  rw [ran] at stepped
  cases stepped
  obtain ⟨kept, -, -⟩ := Task.step_spec ran
  cases e with
  | deliver notice =>
    have said := voiced_of_deliver coin rig mid notice
    rw [kept.id] at said
    obtain ⟨emissions, exited, surfacing, established⟩ := said
    rw [kept.id] at emissions
    exact ⟨emissions, exited, surfacing, established⟩
  | settle established =>
    rw [← kept.id]
    simp only [effect, settle_eq coin (rig.withTask_tasks mid)]
    refine ⟨?_, ?_, ?_, rfl⟩
    · change List.filterMap (fun e : Entry => e.event.emission?) _ = _
      rw [filterMap_stamped, emission_closing]
      rfl
    · exact exited_ofDelivery fun e he => ofDelivery_closing (mem_stamped he).2
    · exact fun before => before.append fun e he => isPeak_closing (mem_stamped he).2
  | none | raise | lower => exact ⟨rfl, rfl, id, rfl⟩
  | begin | crash | exit => exact ⟨rfl, rfl, .other rfl, rfl⟩

end Rig

end TunnelSoak
