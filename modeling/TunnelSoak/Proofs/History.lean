import TunnelSoak.Trace

/-! What a trace tells. A trace has its latest entry first, so what came before an
entry is the rest of the list; the lists read off a trace run forward in time. -/
namespace TunnelSoak

/-- A notice that counts as an establishment. -/
def Notice.establishes (notice : List UInt8) : Bool :=
  match Notice.classify notice with
  | some (.tunnels count) => decide (0 < count)
  | _ => false

namespace Event

/-- Events that come of a controller's own acts, as opposed to the run loop's. -/
def byController : Event → Bool
  | .controllerRunning _ _ => true
  | .controllerExited _ _ => true
  | .controllerCrashed _ _ _ => true
  | .noticeEmitted _ _ => true
  | .noticeMalformed _ => true
  | .diagnostic _ => true
  | .dispatched _ => true
  | .requestPosted _ _ => true
  | .requestDropped _ _ => true
  | _ => false

def ofDelivery : Event → Bool
  | .noticeEmitted _ _ => true
  | .noticeMalformed _ => true
  | .diagnostic _ => true
  | .dispatched _ => true
  | .requestPosted _ _ => true
  | .requestDropped _ _ => true
  | _ => false

theorem byController_of_ofDelivery {event : Event} (h : event.ofDelivery = true) :
    event.byController = true := by
  cases event <;> first | rfl | simp [ofDelivery] at h

/-- Events of the run loop at which no controller begins or ends. -/
def isRoutine : Event → Bool
  | .runStarted _ _ _ => true
  | .controllerStopped _ => true
  | .controllerFailed _ _ => true
  | .requestTaken _ => true
  | .terminateSent _ => true
  | .memoryRead _ => true
  | .sampled _ _ _ => true
  | .progressAdvanced _ _ => true
  | .durationElapsed => true
  | .runPassed _ _ _ _ => true
  | .runFailed _ _ _ => true
  | _ => false

def isSample : Event → Bool
  | .memoryRead _ => true
  | .sampled _ _ _ => true
  | _ => false

theorem isSample_of_byController {event : Event} (own : event.byController = true) :
    event.isSample = false := by
  cases event <;> first | rfl | simp [byController] at own

def isConstruction : Event → Bool
  | .constructionFailed _ _ => true
  | .controllerStarted _ _ => true
  | _ => false

/-- The calls that a run loop makes: to the factory, to the probe, to the observer and to
the controller for a termination. -/
def isCall : Event → Bool
  | .constructionFailed _ _ => true
  | .controllerStarted _ _ => true
  | .memoryRead _ => true
  | .sampled _ _ _ => true
  | .terminateSent _ => true
  | _ => false

def isTerminate : Event → Bool
  | .terminateSent _ => true
  | _ => false

def establishes : Event → Bool
  | .noticeEmitted _ notice => Notice.establishes notice
  | _ => false

def reading? : Event → Option MemoryReading
  | .memoryRead reading => some reading
  | _ => none

/-- What the observer is shown: the number of the sample, the snapshot, the reading. -/
def observation? : Event → Option (Nat × Nat × MemoryReading)
  | .sampled tick tunnels reading => some (tick, tunnels, reading)
  | _ => none

def crash? : Event → Option Nat
  | .controllerCrashed controller _ _ => some controller
  | _ => none

def isStray : Event → Bool
  | .controllerCrashed _ _ tidy => !tidy
  | _ => false

end Event

abbrev History := List Entry

namespace History

def readings (h : History) : List MemoryReading := (h.filterMap fun e => e.event.reading?).reverse

def observations (h : History) : List (Nat × Nat × MemoryReading) :=
  (h.filterMap fun e => e.event.observation?).reverse

def snapshots (h : History) : List Nat := (observations h).map fun seen => seen.2.1

def crashes (h : History) : List Nat := (h.filterMap fun e => e.event.crash?).reverse

/-- How many controllers have crashed and are counted as live all the same. -/
def strays (h : History) : Nat := h.countP fun e => e.event.isStray

def establishments (h : History) : Nat := h.countP fun e => e.event.establishes

def constructions (h : History) : Nat := h.countP fun e => e.event.isConstruction

def terminates (h : History) : Nat := h.countP fun e => e.event.isTerminate

/-- The count that the observer was shown last, zero before the first time. -/
def lastSnapshot : History → Nat
  | [] => 0
  | e :: h =>
    match e.event with
    | .sampled _ tunnels _ => tunnels
    | _ => lastSnapshot h

/-- Controllers whose task was started and has neither exited nor panicked. -/
def unfinished : History → List Nat
  | [] => []
  | e :: h =>
    match e.event with
    | .controllerStarted controller _ => controller :: unfinished h
    | .controllerExited controller _ => (unfinished h).erase controller
    | .controllerCrashed controller _ _ => (unfinished h).erase controller
    | _ => unfinished h

section cons
variable (e : Entry) (h : History)

theorem readings_cons : readings (e :: h) = readings h ++ e.event.reading?.toList := by
  unfold readings
  cases reading : e.event.reading? <;> simp [reading]

theorem observations_cons :
    observations (e :: h) = observations h ++ e.event.observation?.toList := by
  unfold observations
  cases seen : e.event.observation? <;> simp [seen]

variable {e} {h} in
theorem crashes_pass (sound : e.event.crash? = none) : crashes (e :: h) = crashes h := by
  simp [crashes, sound]

variable {e} {h} in
theorem strays_pass (sound : e.event.crash? = none) : strays (e :: h) = strays h := by
  refine List.countP_cons_of_neg ?_
  revert sound
  cases e.event <;> simp [Event.crash?, Event.isStray]

end cons

theorem strays_le_crashes (h : History) : strays h ≤ (crashes h).length := by
  unfold strays crashes
  rw [List.length_reverse, List.length_filterMap_eq_countP]
  refine List.countP_mono_left fun e _ stray => ?_
  revert stray
  cases e.event <;> simp [Event.crash?, Event.isStray]

/-- Every entry stands to what came before it as `P` says. -/
def Throughout (P : Entry → History → Prop) : History → Prop
  | [] => True
  | e :: h => P e h ∧ Throughout P h

theorem Throughout.at {P : Entry → History → Prop} {after before : History} {e : Entry}
    (all : Throughout P (after ++ e :: before)) : P e before := by
  induction after with
  | nil => exact all.1
  | cons _ after ih => exact ih all.2

theorem Throughout.append {P : Entry → History → Prop} {events h : History}
    (all : Throughout P h) (free : ∀ e ∈ events, ∀ before, P e before) :
    Throughout P (events ++ h) := by
  induction events with
  | nil => exact all
  | cons e events ih =>
    exact ⟨free e List.mem_cons_self _, ih fun x hx => free x (List.mem_cons_of_mem _ hx)⟩

theorem started_cases {h : History} {controller start : Nat}
    (started : ∃ e ∈ h, e.event = .controllerStarted controller start) :
    controller ∈ unfinished h ∨ (∃ e ∈ h, ∃ a, e.event = .controllerExited controller a) ∨
      controller ∈ crashes h := by
  induction h with
  | nil => simp at started
  | cons e h ih =>
    obtain ⟨d, hd, event⟩ := started
    rcases List.mem_cons.mp hd with rfl | hd
    · simp [unfinished, event]
    · rcases ih ⟨d, hd, event⟩ with working | ⟨x, hx, a, exited⟩ | crashed
      · rcases e with ⟨time, event⟩
        cases event with
        | controllerStarted other _ => exact .inl (by simp [unfinished, working])
        | controllerExited other a =>
          by_cases same : other = controller
          · exact .inr (.inl ⟨_, List.mem_cons_self, a, by rw [same]⟩)
          · exact .inl ((List.mem_erase_of_ne (Ne.symm same)).mpr working)
        | controllerCrashed other message tidy =>
          by_cases same : other = controller
          · exact .inr (.inr (by simp [crashes, Event.crash?, same]))
          · exact .inl ((List.mem_erase_of_ne (Ne.symm same)).mpr working)
        | _ => exact .inl working
      · exact .inr (.inl ⟨x, List.mem_cons_of_mem _ hx, a, exited⟩)
      · refine .inr (.inr ?_)
        simp only [crashes, List.mem_reverse, List.mem_filterMap] at crashed ⊢
        obtain ⟨x, hx, crash⟩ := crashed
        exact ⟨x, List.mem_cons_of_mem _ hx, crash⟩

theorem append_unchanged {α : Type} (f : History → α) {events h : History}
    (unchanged : ∀ e ∈ events, ∀ before, f (e :: before) = f before) : f (events ++ h) = f h := by
  induction events with
  | nil => rfl
  | cons e events ih =>
    rw [List.cons_append, unchanged e List.mem_cons_self]
    exact ih fun x hx => unchanged x (List.mem_cons_of_mem _ hx)

section pass
variable {events h : History}

theorem filterMap_pass {α : Type} {f : Event → Option α} (none : ∀ e ∈ events, f e.event = none) :
    (events ++ h).filterMap (fun e => f e.event) = h.filterMap fun e => f e.event := by
  rw [List.filterMap_append, List.filterMap_eq_nil_iff.mpr none, List.nil_append]

theorem countP_pass {p : Event → Bool} (none : ∀ e ∈ events, p e.event = false) :
    (events ++ h).countP (fun e => p e.event) = h.countP fun e => p e.event := by
  have uncounted : events.countP (fun e => p e.event) = 0 :=
    List.countP_eq_zero.mpr fun e he => Bool.eq_false_iff.mp (none e he)
  rw [List.countP_append, uncounted, Nat.zero_add]

end pass

section byController
variable {events h : History} (own : ∀ e ∈ events, e.event.byController = true)
include own

theorem constructions_own : constructions (events ++ h) = constructions h := by
  apply countP_pass
  intro e he
  have mine := own e he
  revert mine
  cases e.event <;> simp [Event.byController, Event.isConstruction]

theorem terminates_own : terminates (events ++ h) = terminates h := by
  apply countP_pass
  intro e he
  have mine := own e he
  revert mine
  cases e.event <;> simp [Event.byController, Event.isTerminate]

end byController

section aside
variable {events h : History} (aside : ∀ e ∈ events, e.event.isSample = false)
include aside

theorem readings_aside : readings (events ++ h) = readings h := by
  apply append_unchanged readings
  intro e he before
  have other := aside e he
  rcases e with ⟨time, event⟩
  cases event <;> first | rfl | cases other

theorem observations_aside : observations (events ++ h) = observations h := by
  apply append_unchanged observations
  intro e he before
  have other := aside e he
  rcases e with ⟨time, event⟩
  cases event <;> first | rfl | cases other

theorem lastSnapshot_aside : lastSnapshot (events ++ h) = lastSnapshot h := by
  apply append_unchanged lastSnapshot
  intro e he before
  have other := aside e he
  rcases e with ⟨time, event⟩
  cases event <;> first | rfl | cases other

end aside

section isRoutine
variable {events h : History} (routine : ∀ e ∈ events, e.event.isRoutine = true)
include routine

theorem unfinished_routine : unfinished (events ++ h) = unfinished h := by
  apply append_unchanged unfinished
  intro e he before
  have looped := routine e he
  rcases e with ⟨time, event⟩
  cases event <;> first | rfl | cases looped

theorem constructions_routine : constructions (events ++ h) = constructions h := by
  apply countP_pass
  intro e he
  have looped := routine e he
  revert looped
  cases e.event <;> simp [Event.isRoutine, Event.isConstruction]

theorem strays_routine : strays (events ++ h) = strays h := by
  apply append_unchanged strays
  intro e he before
  apply strays_pass
  have := routine e he
  revert this
  cases e.event <;> simp [Event.isRoutine, Event.crash?]

end isRoutine

section ofDelivery
variable {events h : History} (notices : ∀ e ∈ events, e.event.ofDelivery = true)
include notices

theorem unfinished_ofDelivery : unfinished (events ++ h) = unfinished h := by
  apply append_unchanged unfinished
  intro e he before
  have delivered := notices e he
  rcases e with ⟨time, event⟩
  cases event <;> first | rfl | cases delivered

theorem crashes_ofDelivery : crashes (events ++ h) = crashes h := by
  apply append_unchanged crashes
  intro e he before
  apply crashes_pass
  have delivered := notices e he
  revert delivered
  cases e.event <;> simp [Event.ofDelivery, Event.crash?]

theorem strays_ofDelivery : strays (events ++ h) = strays h := by
  apply append_unchanged strays
  intro e he before
  apply strays_pass
  have delivered := notices e he
  revert delivered
  cases e.event <;> simp [Event.ofDelivery, Event.crash?]

end ofDelivery

end History

end TunnelSoak
