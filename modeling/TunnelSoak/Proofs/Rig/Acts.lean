import TunnelSoak.Proofs.Controller
import TunnelSoak.Proofs.Dispatcher
import TunnelSoak.Proofs.Rig.Operations

/-! The acts of a controller that is the only one on its rig. They reach neither the
clock nor the lifecycle nor the counts of the calls to factory and controllers. -/
namespace TunnelSoak.Rig

open Controller (Task Effect)

variable {rig next : Rig} {t after : Task}

/-- Events recorded at the present time, the latest first. -/
def stamped (rig : Rig) (events : List Event) : History :=
  (events.map (Entry.mk rig.now)).reverse

theorem mem_stamped {events : List Event} {e : Entry} (h : e ∈ rig.stamped events) :
    e.time = rig.now ∧ e.event ∈ events := by
  simp only [stamped, List.mem_reverse, List.mem_map] at h
  obtain ⟨event, mem, rfl⟩ := h
  exact ⟨rfl, mem⟩

theorem recordAll_eq (rig : Rig) (events : List Event) :
    rig.recordAll events = { rig with trace := rig.stamped events ++ rig.trace } := by
  induction events generalizing rig with
  | nil => rfl
  | cons event events ih =>
    change (rig.record event).recordAll events = _
    rw [ih]
    simp [stamped, record]

def closing (established : Nat) (result : Dispatched) : List Event :=
  Event.ofSettled established result ++ [.dispatched result]

theorem settle_eq (coin : Nat → Bool) (sole : rig.tasks = [t]) (established : Nat) :
    rig.settle coin t.id established =
      { rig with
        dispatcher := (rig.dispatcher.settle coin).2
        tasks := [{ t with stage := .ready }]
        trace :=
          rig.stamped (closing established (rig.dispatcher.settle coin).1) ++ rig.trace } := by
  simp [settle, recordAll_eq, dispatched, update, record, sole, stamped, closing]

def opening (id : Nat) (notice : List UInt8) : List Event :=
  .noticeEmitted id notice :: Event.ofArrival notice

theorem deliver_finished (coin : Nat → Bool) (sole : rig.tasks = [t]) {notice : List UInt8}
    {result : Dispatched} {d : Dispatcher}
    (h : rig.dispatcher.arrive notice = (.finished result, d)) :
    rig.deliver coin t.id notice =
      { rig with
        dispatcher := d
        tasks := [{ t with stage := .ready }]
        trace := rig.stamped (opening t.id notice ++ [.dispatched result]) ++ rig.trace } := by
  simp [deliver, recordAll_eq, dispatched, update, record, sole, stamped, opening, h]

theorem deliver_at_once (coin : Nat → Bool) (sole : rig.tasks = [t]) {notice : List UInt8}
    {count : Nat} {d : Dispatcher} (h : rig.dispatcher.arrive notice = (.established count, d))
    (instant : d.settleMs = 0) :
    rig.deliver coin t.id notice =
      { rig with
        dispatcher := (d.settle coin).2
        tasks := [{ t with stage := .ready }]
        trace := rig.stamped (opening t.id notice ++ closing count (d.settle coin).1) ++
          rig.trace } := by
  have record_sole : (rig.record (.noticeEmitted t.id notice)).tasks = [t] := sole
  simp [deliver, recordAll_eq, settle_eq, record, sole, stamped, opening, h, instant]

theorem deliver_settling (coin : Nat → Bool) (sole : rig.tasks = [t]) {notice : List UInt8}
    {count : Nat} {d : Dispatcher} (h : rig.dispatcher.arrive notice = (.established count, d))
    (delayed : d.settleMs ≠ 0) :
    rig.deliver coin t.id notice =
      { rig with
        dispatcher := d
        tasks := [{ t with stage := .settling (rig.now + d.settleMs) count }]
        trace := rig.stamped (opening t.id notice) ++ rig.trace } := by
  simp [deliver, recordAll_eq, update, record, sole, stamped, opening, h, delayed]

theorem ofDelivery_opening {id : Nat} {notice : List UInt8} {event : Event}
    (h : event ∈ opening id notice) : event.ofDelivery = true := by
  rcases List.mem_cons.mp h with rfl | h
  · rfl
  · revert h
    unfold Event.ofArrival
    (repeat' split) <;> simp +contextual [Event.ofDelivery]

theorem ofDelivery_closing {established : Nat} {result : Dispatched} {event : Event}
    (h : event ∈ closing established result) : event.ofDelivery = true := by
  revert h
  cases result <;> simp +contextual [closing, Event.ofSettled, Event.ofDelivery, or_imp]

theorem establishments_stamped (rig : Rig) (events : List Event) :
    History.establishments (rig.stamped events) = events.countP Event.establishes := by
  simp [History.establishments, stamped, List.countP_map, Function.comp_def]

@[simp] theorem countP_opening (id : Nat) (notice : List UInt8) :
    (opening id notice).countP Event.establishes = (Notice.establishes notice).toNat := by
  have arrival : (Event.ofArrival notice).countP Event.establishes = 0 := by
    unfold Event.ofArrival
    (repeat' split) <;> rfl
  cases h : Notice.establishes notice <;> simp [opening, arrival, Event.establishes, h]

@[simp] theorem countP_closing (established : Nat) (result : Dispatched) :
    (closing established result).countP Event.establishes = 0 := by
  cases result <;> rfl

/-- What an act of the only controller `t`, which leaves it as `after`, may change. -/
structure Acted (rig next : Rig) (t after : Task) : Prop where
  tasks : next.tasks = [after]
  kept : Task.Kept t after
  begun : after.stage ≠ .spawned
  now : next.now = rig.now
  lifecycle : next.lifecycle = rig.lifecycle
  attempts : next.counters.attempts = rig.counters.attempts
  constructed : next.counters.constructed = rig.counters.constructed
  terminateCalls : next.counters.terminateCalls = rig.counters.terminateCalls
  mode : next.dispatcher.mode = rig.dispatcher.mode
  own : ∃ events, next.trace = events ++ rig.trace ∧
    ∀ e ∈ events, e.time = rig.now ∧ e.event.byController = true
  established : next.dispatcher.tracker.established + History.establishments rig.trace =
    rig.dispatcher.tracker.established + History.establishments next.trace
  unfinished : History.unfinished next.trace =
    if after.isOver then (History.unfinished rig.trace).erase t.id
    else History.unfinished rig.trace
  crashes : History.crashes next.trace =
    History.crashes rig.trace ++ if after.hasCrashed then [t.id] else []
  strays : History.strays next.trace =
    History.strays rig.trace + (after.hasCrashed && !t.script.tidy).toNat
  live : rig.counters.live = t.isLive.toNat + History.strays rig.trace →
    next.counters.live = after.isLive.toNat + History.strays next.trace
  peak : next.counters.peakLive ≤ max rig.counters.peakLive next.counters.live

/-- The acts that leave the controller at work: at most they deliver a notice, settle
one, or count a tunnel that comes up or is taken down. -/
theorem Acted.ofDelivery (d : Dispatcher) (events : List Event) (raised lowered : Nat)
    (kept : Task.Kept t after) (live : t.isLive = true) (going : after.isLive = true)
    (mode : d.mode = rig.dispatcher.mode)
    (notices : ∀ event ∈ events, event.ofDelivery = true)
    (counted : d.tracker.established =
      rig.dispatcher.tracker.established + events.countP Event.establishes) :
    Acted rig
      { rig with
        dispatcher := d
        counters := { rig.counters with established := raised, terminations := lowered }
        tasks := [after]
        trace := rig.stamped events ++ rig.trace }
      t after := by
  have own : ∀ e ∈ rig.stamped events, e.event.ofDelivery = true :=
    fun e he => notices _ (mem_stamped he).2
  have begun : after.stage ≠ .spawned ∧ after.isOver = false := by
    simpa [Task.isLive] using going
  refine
    { tasks := rfl, kept, begun := begun.1, now := rfl, lifecycle := rfl, attempts := rfl
      constructed := rfl, terminateCalls := rfl, mode
      own := ⟨_, rfl, fun e he =>
        ⟨(mem_stamped he).1, Event.byController_of_ofDelivery (own e he)⟩⟩
      established := ?_, unfinished := ?_, crashes := ?_, strays := ?_
      live := fun h => by rw [going, ← live, History.strays_ofDelivery own]; exact h
      peak := Nat.le_max_left _ _ }
  · have split : History.establishments (rig.stamped events ++ rig.trace) =
        events.countP Event.establishes + History.establishments rig.trace := by
      rw [← establishments_stamped rig events]
      exact List.countP_append
    simp only [split, counted]
    omega
  · simp only [begun.2, History.unfinished_ofDelivery own]
    rfl
  · simp [History.crashes_ofDelivery own, Task.not_hasCrashed begun.2]
  · simp [History.strays_ofDelivery own, Task.not_hasCrashed begun.2]

def withTask (rig : Rig) (t : Task) : Rig := { rig with tasks := [t] }

theorem withTask_tasks (rig : Rig) (t : Task) : (rig.withTask t).tasks = [t] := rfl

/-- The act with which the controller comes to its end; `tidy` says that it is no longer
counted as live. -/
theorem Acted.ofEnd {event : Event} {tidy : Bool} (own : event.byController = true)
    (kept : Task.Kept t after) (live : t.isLive = true) (ended : after.isOver = true)
    (quiet : event.establishes = false)
    (finished : ∀ h, History.unfinished (⟨rig.now, event⟩ :: h) = (History.unfinished h).erase t.id)
    (crash : event.crash? = if after.hasCrashed then some t.id else none)
    (stray : event.isStray = !tidy) (left : tidy = (!after.hasCrashed || t.script.tidy)) :
    Acted rig ({ rig.withTask after with counters := leave tidy rig.counters }.record event)
      t after := by
  have counted : History.strays (⟨rig.now, event⟩ :: rig.trace) =
      History.strays rig.trace + (!tidy).toNat := by
    unfold History.strays
    rw [List.countP_cons]
    cases tidy <;> simp [stray]
  refine
    { tasks := rfl, kept, begun := ?_, now := rfl, lifecycle := rfl, attempts := rfl
      constructed := rfl, terminateCalls := rfl, mode := rfl
      own := ⟨[⟨rig.now, event⟩], rfl, by simpa using own⟩
      established := ?_, unfinished := ?_, crashes := ?_, strays := ?_, live := ?_
      peak := Nat.le_max_left _ _ }
  · intro spawned
    simp [Task.isOver, spawned] at ended
  · change _ = _ + History.establishments (⟨rig.now, event⟩ :: rig.trace)
    simp [History.establishments, quiet, withTask, record]
  · rw [if_pos ended]
    exact finished rig.trace
  · change History.crashes (⟨rig.now, event⟩ :: rig.trace) = _
    cases crashed : after.hasCrashed <;> simp [History.crashes, crash, crashed]
  · refine counted.trans ?_
    rw [left, Bool.not_or, Bool.not_not]
  · intro one
    have gone : after.isLive = false := by simp [Task.isLive, ended]
    rw [live] at one
    rw [gone]
    change rig.counters.live - tidy.toNat =
      false.toNat + History.strays (⟨rig.now, event⟩ :: rig.trace)
    rw [counted, one]
    cases tidy <;> simp [Nat.add_comm]

theorem stepTask_sole (coin : Nat → Bool) (sole : rig.tasks = [t]) (id : Nat) (heed : Bool) :
    rig.stepTask coin id heed = some next ↔
      id = t.id ∧ ∃ mid e, t.step rig.now heed = some (mid, e) ∧
        (rig.withTask mid).effect coin t.id t.script.announced e = next := by
  by_cases own : id = t.id
  · subst own
    simp [stepTask, task?, update, withTask, sole, Option.bind_eq_some_iff]
  · simp [stepTask, task?, sole, own, Ne.symm own]

theorem acted_of_deliver (coin : Nat → Bool) {mid : Task} {notice : List UInt8}
    (kept : Task.Kept t mid) (live : t.isLive = true) :
    ∃ after, Acted rig ((rig.withTask mid).deliver coin t.id notice) t after := by
  have keptReady : Task.Kept t { mid with stage := .ready } :=
    ⟨kept.id, kept.script, kept.cancelled⟩
  rw [← kept.id]
  cases count : Notice.establishes notice with
  | false =>
    obtain ⟨result, arrived⟩ := rig.dispatcher.arrive_of_not_establishes count
    rw [deliver_finished coin (rig.withTask_tasks mid) arrived]
    refine ⟨_, .ofDelivery _ _ _ _ keptReady live rfl rfl ?_ ?_⟩
    · intro event h
      rcases List.mem_append.mp h with h | h
      · exact ofDelivery_opening h
      · rw [List.mem_singleton.mp h]; rfl
    · simp [count, Event.establishes]
  | true =>
    have arrived := rig.dispatcher.arrive_of_establishes count
    by_cases instant : rig.dispatcher.settleMs = 0
    · rw [deliver_at_once coin (rig.withTask_tasks mid) arrived instant]
      refine ⟨_, .ofDelivery _ _ _ _ keptReady live rfl (Dispatcher.settle_mode _ _) ?_ ?_⟩
      · intro event h
        rcases List.mem_append.mp h with h | h
        · exact ofDelivery_opening h
        · exact ofDelivery_closing h
      · simp [count, Tracker.increment]
    · rw [deliver_settling coin (rig.withTask_tasks mid) arrived instant]
      refine ⟨_, .ofDelivery _ _ _ _ ⟨kept.id, kept.script, kept.cancelled⟩ live rfl rfl ?_ ?_⟩
      · exact fun event h => ofDelivery_opening h
      · simp [count, Tracker.increment]

theorem acted (coin : Nat → Bool) (sole : rig.tasks = [t]) {id : Nat} {heed : Bool}
    (h : rig.stepTask coin id heed = some next) :
    t.isOver = false ∧ ∃ after, Acted rig next t after := by
  obtain ⟨rfl, mid, e, stepped, rfl⟩ := (stepTask_sole coin sole id heed).mp h
  obtain ⟨kept, announced, working⟩ := Task.step_spec stepped
  refine ⟨working, ?_⟩
  have live_of (begun : t.stage ≠ .spawned) : t.isLive = true := by
    simp [Task.isLive, working, begun]
  have going (begun : mid.stage ≠ .spawned) (exited : mid.stage ≠ .exited)
      (crashed : ∀ message, mid.stage ≠ .crashed message) : mid.isLive = true := by
    unfold Task.isLive Task.isOver
    cases stage : mid.stage <;> simp_all
  cases e with
  | none | raise | lower =>
    obtain ⟨begun, a, b, c⟩ := announced
    exact ⟨mid, .ofDelivery rig.dispatcher [] _ _ kept (live_of begun)
      (going a b c) rfl (by simp) rfl⟩
  | deliver notice => exact acted_of_deliver coin kept (live_of announced.1)
  | settle established =>
    obtain ⟨begun, -, -, -⟩ := announced
    rw [← kept.id]
    simp only [effect, settle_eq coin (rig.withTask_tasks mid)]
    refine ⟨_, .ofDelivery _ _ _ _ ⟨kept.id, kept.script, kept.cancelled⟩ (live_of begun) rfl
      (Dispatcher.settle_mode _ _) (fun event h => ofDelivery_closing h) ?_⟩
    simp [withTask]
  | begin =>
    obtain ⟨spawned, ready⟩ := announced
    have quiet : History.strays (⟨rig.now, .controllerRunning t.id t.script.announced⟩ ::
        rig.trace) = History.strays rig.trace := History.strays_pass rfl
    refine ⟨mid,
      { tasks := rfl, kept, begun := by simp [ready], now := rfl, lifecycle := rfl
        attempts := rfl, constructed := rfl, terminateCalls := rfl, mode := rfl
        own := ⟨[⟨rig.now, .controllerRunning t.id t.script.announced⟩], rfl,
          by simp [Event.byController]⟩
        established := rfl, unfinished := ?_, crashes := ?_, strays := ?_, live := ?_
        peak := ?_ }⟩
    · simp [Task.isOver, ready, effect, record, withTask, History.unfinished]
    · simp [Task.hasCrashed, ready, effect, record, withTask, History.crashes, Event.crash?]
    · refine quiet.trans ?_
      simp [Task.hasCrashed, ready]
    · simp +contextual [Task.isLive, Task.isOver, spawned, ready, effect, record, withTask, enter,
        quiet, Nat.add_comm]
    · simp [effect, record, withTask, enter]
  | exit =>
    obtain ⟨begun, exited⟩ := announced
    have sound : mid.hasCrashed = false := by simp [Task.hasCrashed, exited]
    exact ⟨mid, .ofEnd rfl kept (live_of begun) (Task.isOver_of_exited exited) rfl
      (fun _ => rfl) (by rw [sound]; rfl) rfl (by rw [sound]; rfl)⟩
  | crash message tidy =>
    obtain ⟨begun, crashed⟩ := announced
    have broken : mid.hasCrashed = true := by simp [Task.hasCrashed, crashed]
    obtain ⟨-, rfl⟩ := Task.step_crash stepped
    exact ⟨mid, .ofEnd rfl kept (live_of begun) (Task.isOver_of_crashed crashed) rfl
      (fun _ => rfl) (by rw [broken]; rfl) rfl (by rw [broken]; rfl)⟩

end TunnelSoak.Rig
