import TunnelSoak.Proofs.Soak.Ledger
import TunnelSoak.Proofs.Soak.Run

/-! The first fatal event decides a run. Fatal are a refused construction, a panicked
task that a restart comes upon, a reading above the ceiling and a look of the observer
that sees no progress. From the first of them on the loop makes no call any more, and
its failure is what the run ends with. -/
namespace TunnelSoak

open Controller (Task)
open History

namespace History

def replacing : History → Bool
  | [] => false
  | e :: h =>
    match e.event with
    | .requestTaken .restart => true
    | .controllerStopped _ => false
    | .controllerFailed _ _ => false
    | _ => replacing h

/-- The failure that an event means to the loop, given what came before it. -/
def fatal? (ceiling : Nat) (before : History) : Event → Option Failure
  | .constructionFailed _ failure => some failure
  | .controllerFailed _ reason => if replacing before then some (.task reason) else none
  | .memoryRead reading =>
    if ceiling < reading.system then some (.ceilingExceeded reading.system ceiling) else none
  | .sampled _ tunnels _ =>
    if tunnels ≤ lastSnapshot before then some (.stalled (lastSnapshot before) tunnels) else none
  | _ => none

def firstFatal? (ceiling : Nat) : History → Option Failure
  | [] => none
  | e :: before => (firstFatal? ceiling before).or (fatal? ceiling before e.event)

/-- After a fatal event no call is made. -/
def Silenced (ceiling : Nat) (h : History) : Prop :=
  Throughout (fun e before => (firstFatal? ceiling before).isSome → e.event.isCall = false) h

section own
variable {events h : History} (own : ∀ e ∈ events, e.event.byController = true)
include own

theorem firstFatal?_own (ceiling : Nat) :
    firstFatal? ceiling (events ++ h) = firstFatal? ceiling h := by
  apply append_unchanged (firstFatal? ceiling)
  intro e he before
  have harmless : fatal? ceiling before e.event = none := by
    have mine := own e he
    revert mine
    cases e.event <;> simp [Event.byController, fatal?]
  rw [firstFatal?, harmless, Option.or_none]

theorem replacing_own : replacing (events ++ h) = replacing h := by
  apply append_unchanged replacing
  intro e he before
  have mine := own e he
  rcases e with ⟨time, event⟩
  cases event <;> first | rfl | cases mine

end own

theorem isCall_of_own {event : Event} (own : event.byController = true) : event.isCall = false := by
  cases event <;> first | rfl | simp [Event.byController] at own

theorem isSample_of_not_isCall {event : Event} (quiet : event.isCall = false) :
    event.isSample = false := by
  cases event <;> first | rfl | simp [Event.isCall] at quiet

section Silenced
variable {ceiling : Nat} {after before : History}

theorem firstFatal?_append {failure : Failure} (first : firstFatal? ceiling before = some failure) :
    firstFatal? ceiling (after ++ before) = some failure := by
  induction after with
  | nil => exact first
  | cons e after ih => rw [List.cons_append, firstFatal?, ih, Option.some_or]

theorem Silenced.clean {e : Entry} (silenced : Silenced ceiling (after ++ e :: before))
    (call : e.event.isCall = true) : firstFatal? ceiling before = none := by
  cases first : firstFatal? ceiling before with
  | none => rfl
  | some failure =>
    have quiet := Throughout.at silenced (by rw [first]; rfl)
    rw [call] at quiet
    cases quiet

theorem Silenced.quiet {failure : Failure} (silenced : Silenced ceiling (after ++ before))
    (first : firstFatal? ceiling before = some failure) : ∀ e ∈ after, e.event.isCall = false := by
  induction after with
  | nil => simp
  | cons e after ih =>
    have later : firstFatal? ceiling (after ++ before) = some failure := firstFatal?_append first
    intro x hx
    rcases List.mem_cons.mp hx with rfl | hx
    · exact silenced.1 (Option.isSome_of_eq_some later)
    · exact ih silenced.2 x hx

theorem Silenced.call {e : Entry} (silenced : Silenced ceiling before)
    (clean : firstFatal? ceiling before = none) : Silenced ceiling (e :: before) :=
  ⟨fun fatal => absurd clean (Option.isSome_iff_ne_none.mp fatal), silenced⟩

theorem Silenced.pass {e : Entry} (silenced : Silenced ceiling before)
    (quiet : e.event.isCall = false) : Silenced ceiling (e :: before) :=
  ⟨fun _ => quiet, silenced⟩

end Silenced

section sample
variable {ceiling : Nat} {after before : History} {time : Nat} {reading : MemoryReading}

theorem Silenced.aside {failure : Failure} (silenced : Silenced ceiling (after ++ before))
    (first : firstFatal? ceiling before = some failure) :
    ∀ e ∈ after, e.event.isSample = false :=
  fun e he => isSample_of_not_isCall (silenced.quiet first e he)

theorem exceeded_sample
    (silenced : Silenced ceiling (after ++ ⟨time, .memoryRead reading⟩ :: before))
    (orderly : Throughout (Orderly ceiling) (after ++ ⟨time, .memoryRead reading⟩ :: before))
    (above : ceiling < reading.system) :
    let h := after ++ ⟨time, .memoryRead reading⟩ :: before
    firstFatal? ceiling h = some (.ceilingExceeded reading.system ceiling) ∧
      (readings h).length = (readings before).length + 1 ∧
      (observations h).length = (readings before).length := by
  have fatal : firstFatal? ceiling (⟨time, .memoryRead reading⟩ :: before) =
      some (.ceilingExceeded reading.system ceiling) := by
    simp [firstFatal?, fatal?, silenced.clean rfl, above]
  have aside := silenced.aside fatal
  have place : (observations before).length = (readings before).length := orderly.at
  refine ⟨firstFatal?_append fatal, ?_, ?_⟩
  · rw [readings_aside aside, readings_cons, List.length_append]
    rfl
  · rw [observations_aside aside, observations_cons, List.length_append, ← place]
    rfl

theorem stalled_sample {tick tunnels : Nat}
    (silenced : Silenced ceiling (after ++ ⟨time, .sampled tick tunnels reading⟩ :: before))
    (orderly : Throughout (Orderly ceiling)
      (after ++ ⟨time, .sampled tick tunnels reading⟩ :: before))
    (stuck : tunnels ≤ lastSnapshot before) :
    let h := after ++ ⟨time, .sampled tick tunnels reading⟩ :: before
    firstFatal? ceiling h = some (.stalled tunnels tunnels) ∧
      (readings h).length = tick ∧ (observations h).length = tick := by
  obtain ⟨place, shown, -, -, -, bounded⟩ := orderly.at
  have same : lastSnapshot before = tunnels := Nat.le_antisymm bounded stuck
  have fatal : firstFatal? ceiling (⟨time, .sampled tick tunnels reading⟩ :: before) =
      some (.stalled tunnels tunnels) := by
    simp [firstFatal?, fatal?, silenced.clean rfl, same]
  have aside := silenced.aside fatal
  refine ⟨firstFatal?_append fatal, ?_, ?_⟩
  · rw [readings_aside aside, readings_cons, List.length_append, place]
    rfl
  · rw [observations_aside aside, observations_cons, List.length_append, shown]
    rfl

end sample

/-- The run's last stop came upon a panicked task after the duration was over. -/
def EndsInPanic (failure : Failure) (h : History) : Prop :=
  ∃ after e before controller reason, h = after ++ e :: before ∧
    e.event = .controllerFailed controller reason ∧ failure = .task reason ∧
    ∃ d ∈ before, d.event = .durationElapsed

end History

namespace Soak

/-- What the trace must say for the stage of a run. -/
def Judged (ceiling : Nat) (s : Soak) : Prop :=
  let h := s.rig.trace
  match s.stage with
  | .selecting => firstFatal? ceiling h = none ∧ replacing h = false
  | .panicked _ => firstFatal? ceiling h = none ∧ replacing h = false
  | .restarting _ => firstFatal? ceiling h = none ∧ replacing h = true
  | .closing _ (.ok ()) =>
    firstFatal? ceiling h = none ∧ replacing h = false ∧ ∃ d ∈ h, d.event = .durationElapsed
  | .closing _ (.error failure) => firstFatal? ceiling h = some failure
  | .over (.ok _) => firstFatal? ceiling h = none
  | .over (.error failure) =>
    firstFatal? ceiling h = some failure ∨
      firstFatal? ceiling h = none ∧ EndsInPanic failure h

theorem Opening.judged {setup : Setup} {s : Soak} {ceiling : Nat} (h : Opening setup s)
    (valid : setup.config.validate = .ok ()) :
    s.Judged ceiling ∧ Silenced ceiling s.rig.trace := by
  cases h with
  | invalid rejected => simp [valid] at rejected
  | refused => exact ⟨.inl rfl, nofun, nofun, trivial⟩
  | panicked | selecting => exact ⟨⟨rfl, rfl⟩, nofun, nofun, trivial⟩

theorem Judged.carry {ceiling : Nat} {s next : Soak} (judged : s.Judged ceiling) (events : History)
    (running : ∀ result, s.stage ≠ .over result) (stage : next.stage = s.stage)
    (trace : next.rig.trace = events ++ s.rig.trace)
    (fatal : firstFatal? ceiling (events ++ s.rig.trace) = firstFatal? ceiling s.rig.trace)
    (stopping : replacing (events ++ s.rig.trace) = replacing s.rig.trace) :
    next.Judged ceiling := by
  unfold Judged at judged ⊢
  simp only [stage, trace, fatal, stopping]
  split at judged
  · exact judged
  · exact judged
  · exact judged
  · obtain ⟨clean, kept, d, hd, elapsed⟩ := judged
    exact ⟨clean, kept, d, List.mem_append_right _ hd, elapsed⟩
  · exact judged
  · exact absurd ‹s.stage = _› (running _)
  · exact absurd ‹s.stage = _› (running _)

theorem judged_conclude {ceiling : Nat} {rig : Rig} {stopped : Except Failure Unit} {s : Soak}
    {t : Task} {outcome : Except Failure Unit} (judged : s.Judged ceiling)
    (stage : s.stage = .closing t.id outcome) (joined : s.rig.Joined t stopped rig) :
    (({ s with rig } : Soak).conclude outcome stopped).Judged ceiling := by
  simp only [Judged, stage] at judged
  cases outcome with
  | error failure =>
    refine .inl ?_
    cases joined <;> simp [conclude, fail, Soak.record, Rig.vacated, firstFatal?, judged]
  | ok _ =>
    obtain ⟨clean, kept, elapsed⟩ := judged
    cases joined with
    | exited =>
      change firstFatal? ceiling (_ :: _ :: s.rig.trace) = none
      simp [firstFatal?, fatal?, clean]
    | crashed =>
      refine .inr ⟨?_, [_], _, s.rig.trace, _, _, rfl, rfl, rfl, elapsed⟩
      change firstFatal? ceiling (_ :: _ :: s.rig.trace) = none
      simp [firstFatal?, fatal?, clean, kept]

section Transition
variable {setup : Setup} {s next : Soak} {move : Move}

theorem Transition.judged (h : Transition setup s move next) (sup : s.Supervised)
    (ledger : s.Ledger setup) (judged : s.Judged setup.config.maxSysMemory) :
    next.Judged setup.config.maxSysMemory := by
  have running := h.not_over sup
  cases h with
  | act sole stepped working acted =>
    obtain ⟨events, trace, own⟩ := acted.own
    have own : ∀ e ∈ events, e.event.byController = true := fun e he => (own e he).2
    exact judged.carry events running rfl trace (firstFatal?_own own _) (replacing_own own)
  | elapse => exact judged.carry [] running rfl rfl rfl rfl
  | conclude stage sole unheld joined => exact judged_conclude judged stage joined
  | expire stage =>
    simp only [Judged, stage] at judged
    refine ⟨?_, judged.2, _, List.mem_cons_self, rfl⟩
    simp [Rig.released, firstFatal?, fatal?, judged.1]
  | exceed stage sole held due room above =>
    simp only [Judged, stage] at judged
    change firstFatal? _ (_ :: s.rig.trace) = _
    simp [firstFatal?, fatal?, judged.1, above, excess]
  | overrun stage => simpa only [Judged, stage] using judged
  | stall stage sole held due room within stuck =>
    simp only [Judged, stage] at judged
    have shown := ledger.last
    change firstFatal? _ (_ :: _ :: s.rig.trace) = _
    simp [firstFatal?, fatal?, judged.1, Nat.not_lt.mpr within, lastSnapshot, ← shown, stuck,
      Soak.stall]
  | advance stage sole held due room within progress =>
    have shown := ledger.last
    refine judged.carry [_, _, _] running rfl rfl ?_ rfl
    simp [firstFatal?, fatal?, Nat.not_lt.mpr within, lastSnapshot, ← shown,
      Nat.not_le.mpr progress]
  | reconnect =>
    exact judged.carry [_, _] running rfl rfl (by simp [firstFatal?, fatal?]) rfl
  | replace stage =>
    simp only [Judged, stage] at judged
    change firstFatal? _ (_ :: s.rig.trace) = none ∧ _
    exact ⟨by simp [firstFatal?, fatal?, judged.1], rfl⟩
  | renew stage =>
    simp only [Judged, stage] at judged
    change firstFatal? _ (_ :: _ :: s.rig.trace) = none ∧ _
    exact ⟨by simp [firstFatal?, fatal?, judged.1], rfl⟩
  | refuse stage =>
    simp only [Judged, stage] at judged
    change firstFatal? _ (_ :: _ :: _ :: s.rig.trace) = _ ∨ _
    simp [firstFatal?, fatal?, judged.1]
  | collapse stage =>
    simp only [Judged, stage] at judged
    change firstFatal? _ (_ :: _ :: s.rig.trace) = _ ∨ _
    simp [firstFatal?, fatal?, judged.1, judged.2]

theorem Transition.silenced (h : Transition setup s move next)
    (judged : s.Judged setup.config.maxSysMemory)
    (silenced : Silenced setup.config.maxSysMemory s.rig.trace) :
    Silenced setup.config.maxSysMemory next.rig.trace := by
  cases h with
  | act sole stepped working acted =>
    obtain ⟨events, trace, own⟩ := acted.own
    rw [trace]
    exact silenced.append fun e he _ _ => isCall_of_own (own e he).2
  | overrun | elapse => exact silenced
  | expire | replace => exact silenced.pass rfl
  | collapse => exact (silenced.pass rfl).pass rfl
  | @conclude t outcome stopped rig stage sole unheld joined =>
    cases outcome <;> cases joined <;> exact (silenced.pass rfl).pass rfl
  | exceed stage =>
    simp only [Judged, stage] at judged
    exact silenced.call judged.1
  | stall stage sole held due room within =>
    simp only [Judged, stage] at judged
    apply (silenced.call judged.1).call
    simp [firstFatal?, fatal?, judged.1, Nat.not_lt.mpr within]
  | advance stage sole held due room within =>
    simp only [Judged, stage] at judged
    refine ((silenced.call judged.1).call ?_).pass rfl
    simp [firstFatal?, fatal?, judged.1, Nat.not_lt.mpr within]
  | reconnect stage =>
    simp only [Judged, stage] at judged
    apply (silenced.pass rfl).call
    simp [firstFatal?, fatal?, judged.1]
  | renew stage =>
    simp only [Judged, stage] at judged
    apply (silenced.pass rfl).call
    simp [firstFatal?, fatal?, judged.1]
  | refuse stage =>
    simp only [Judged, stage] at judged
    refine ((silenced.pass rfl).call ?_).pass rfl
    simp [firstFatal?, fatal?, judged.1]

end Transition

section Reachable
variable {setup : Setup} {s : Soak} (reach : Reachable setup s)
include reach

theorem Reachable.judged (valid : setup.config.validate = .ok ()) :
    s.Judged setup.config.maxSysMemory ∧ Silenced setup.config.maxSysMemory s.rig.trace :=
  reach.induct (fun _ h => h.judged valid) fun _ _ _ reach ih h =>
    ⟨h.judged reach.supervised reach.ledger.1 ih.1, h.silenced ih.1 ih.2⟩

theorem Reachable.rejected {failure : Failure} (rejected : setup.config.validate = .error failure) :
    s.rig.trace = [] ∧ s.stage = .over (.error failure) := by
  refine reach.induct (motive := fun s => s.rig.trace = [] ∧ s.stage = .over (.error failure)) ?_ ?_
  · intro s opening
    cases opening with
    | invalid same =>
      rw [rejected] at same
      cases same
      exact ⟨rfl, rfl⟩
    | refused valid | panicked valid | selecting valid =>
      rw [rejected] at valid
      cases valid
  · intro s move next reach ended h
    exact absurd ended.2 (h.not_over reach.supervised _)

end Reachable

/-- The failure of the first fatal event is what a run ends with. The run may still wait for
its last controller; once that one is over, so is the run. -/
theorem Judged.decided {setup : Setup} {s : Soak} {failure : Failure} (sup : s.Supervised)
    (judged : s.Judged setup.config.maxSysMemory)
    (first : firstFatal? setup.config.maxSysMemory s.rig.trace = some failure) :
    s.stage = .over (.error failure) ∨
      ∃ t, s.stage = .closing t.id (.error failure) ∧ s.rig.tasks = [t] ∧
        (t.isOver = true → ∃ next, s.step setup .join = some next ∧
          next.stage = .over (.error failure)) := by
  unfold Judged at judged
  split at judged
  · simp [first] at judged
  · simp [first] at judged
  · simp [first] at judged
  · simp [first] at judged
  · rename_i id error stage
    obtain rfl : failure = error := Option.some.inj (first.symm.trans judged)
    obtain ⟨t, sole, unheld, rfl⟩ := sup.closing stage
    refine .inr ⟨t, stage, sole, fun ended => ?_⟩
    obtain ⟨stopped, rig, joined⟩ := Rig.exists_join sole ended
    refine ⟨({ s with rig } : Soak).conclude (.error failure) stopped, ?_, rfl⟩
    simp only [step, join, stage, joined, Option.map_some]
  · simp [first] at judged
  · rename_i error stage
    rcases judged with same | ⟨clean, -⟩
    · obtain rfl : failure = error := Option.some.inj (first.symm.trans same)
      exact .inl stage
    · rw [first] at clean
      cases clean

/-- A run that is over with a failure ends with that of its first fatal event, and makes no
call after that event; without one only the last stop can fail, when it comes upon a
panicked controller. -/
theorem first_fatal_event_decides {setup : Setup} {s : Soak} (reach : Reachable setup s) :
    let ceiling := setup.config.maxSysMemory
    let h := s.rig.trace
    (∀ failure, setup.config.validate = .error failure →
      h = [] ∧ s.stage = .over (.error failure)) ∧
    (setup.config.validate = .ok () →
      (∀ failure, firstFatal? ceiling h = some failure →
        s.stage = .over (.error failure) ∨
          ∃ t, s.stage = .closing t.id (.error failure) ∧ s.rig.tasks = [t] ∧
            (t.isOver = true → ∃ next, s.step setup .join = some next ∧
              next.stage = .over (.error failure))) ∧
      (∀ after before, h = after ++ before → (firstFatal? ceiling before).isSome = true →
        ∀ e ∈ after, e.event.isCall = false) ∧
      (∀ failure, s.stage = .over (.error failure) → firstFatal? ceiling h = none →
        EndsInPanic failure h) ∧
      (∀ after time reading before, h = after ++ ⟨time, .memoryRead reading⟩ :: before →
        ceiling < reading.system →
        firstFatal? ceiling h = some (.ceilingExceeded reading.system ceiling) ∧
          (readings h).length = (readings before).length + 1 ∧
          (observations h).length = (readings before).length) ∧
      (∀ after time tick tunnels reading before,
        h = after ++ ⟨time, .sampled tick tunnels reading⟩ :: before →
        tunnels ≤ lastSnapshot before →
        firstFatal? ceiling h = some (.stalled tunnels tunnels) ∧
          (readings h).length = tick ∧ (observations h).length = tick)) := by
  refine ⟨fun failure rejected => reach.rejected rejected, fun valid => ?_⟩
  obtain ⟨judged, silenced⟩ := reach.judged valid
  have orderly := reach.ledger.1.orderly
  refine ⟨fun failure => judged.decided reach.supervised, ?_, ?_, ?_, ?_⟩
  · intro after before split fatal
    obtain ⟨failure, first⟩ := Option.isSome_iff_exists.mp fatal
    rw [split] at silenced
    exact silenced.quiet first
  · intro failure ended clean
    simp only [Judged, ended, clean] at judged
    rcases judged with first | ⟨-, panic⟩
    · cases first
    · exact panic
  · intro after time reading before split above
    rw [split] at silenced orderly ⊢
    exact exceeded_sample silenced orderly above
  · intro after time tick tunnels reading before split stuck
    rw [split] at silenced orderly ⊢
    exact stalled_sample silenced orderly stuck

/-- A controller that never establishes a tunnel and panics when it is stopped. -/
def stubborn : Setup where
  config := {}
  plan := { refusal _ := none, script _ := { shutdown := [.crash "no brakes"] } }
  coin _ := false
  readings _ := ⟨0, 0⟩

theorem stall_outlasts_panic : ∃ s, Reachable stubborn s ∧ crashes s.rig.trace = [1] ∧
    s.stage = .over (.error (.stalled 0 0)) := by
  obtain ⟨s, made, first, crashed, ended⟩ : ∃ s, replay stubborn (begin stubborn)
      [.act 1 true, .act 1 true, .elapse, .tick, .act 1 true, .act 1 true, .join] = some s ∧
      firstFatal? stubborn.config.maxSysMemory s.rig.trace = some (.stalled 0 0) ∧
      crashes s.rig.trace = [1] ∧ s.isOver = true := ⟨_, rfl, rfl, rfl, rfl⟩
  have reach : Reachable stubborn s := Reachable.begin.replay made
  rcases ((first_fatal_event_decides reach).2 rfl).1 _ first with ended | ⟨t, closing, -⟩
  · exact ⟨s, reach, crashed, ended⟩
  · simp [isOver, closing] at ended

end Soak

end TunnelSoak
