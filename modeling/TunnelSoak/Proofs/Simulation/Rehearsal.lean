import TunnelSoak.Proofs.Rig.Session
import TunnelSoak.Proofs.Simulation.Footing

/-! Simulated controllers through any session of starts, stops, restarts, requests to terminate
and lapses of time. One invariant covers every moment, also while a stop waits: the controllers
that have left have said farewell, the one that is there has its footing, and the books of the
factory and of the dispatcher follow what was said, up to its loose ends. -/
namespace TunnelSoak

open Controller (Task)
open History
open Rig (Passage Stops Operation Outcome Operates)

/-- How many of an operation's requests to terminate were answered with true. -/
def Rig.Outcome.granted : Outcome → Nat
  | .heard answers => answers.count true
  | _ => 0

namespace Simulation

variable {coin : Nat → Bool} {sim : Simulation} {mode : Mode} {settleMs granted : Nat}
  {rig next : Rig} {t : Task}

/-- The rigs that operations with simulated controllers can make of a new one, and how many
requests to terminate they were granted on the way. -/
inductive Rehearsal (coin : Nat → Bool) (sim : Simulation) (mode : Mode) (settleMs : Nat) :
    Nat → Rig → Prop
  | new : Rehearsal coin sim mode settleMs 0 { dispatcher := { mode, settleMs } }
  | operate {before : Nat} {rig next : Rig} {operation : Operation} {outcome : Outcome}
    (rehearsal : Rehearsal coin sim mode settleMs before rig)
    (operates : Operates coin sim.plan rig operation outcome next) :
    Rehearsal coin sim mode settleMs (before + outcome.granted) next

/-- The counters of the factory follow what was said, up to the loose ends. -/
structure Books (granted : Nat) (ends : LooseEnds) (rig : Rig) : Prop where
  established : rig.counters.established =
    emittedTimes (tunnelsNotice 1) rig.trace + ends.raised
  terminations : rig.counters.terminations =
    emittedTimes (tunnelsNotice 0) rig.trace + ends.lowered
  up : emittedTimes (tunnelsNotice 0) rig.trace + ends.up ≤
    emittedTimes (tunnelsNotice 1) rig.trace
  spare : emittedTimes (tunnelsNotice 1) rig.trace + ends.spare ≤
    emittedTimes (tunnelsNotice 0) rig.trace + rig.counters.constructed
  owed : rig.counters.terminations + ends.owed ≤ granted

inductive Company (sim : Simulation) (granted : Nat) (halted : Bool) (rig : Rig) : Prop
  | vacant (vacant : rig.tasks = []) (books : Books granted {} rig)
    (others : ∀ id, Finished rig.trace id)
  | sole {t : Task} {ends : LooseEnds} (sole : rig.tasks = [t])
    (footing : Footing sim (emittedBy t.id rig.trace) ends t)
    (exits : t.id ∈ exited rig.trace ↔ t.stage = .exited) (told : t.cancelled = halted)
    (books : Books granted ends rig) (others : ∀ id, t.id ≠ id → Finished rig.trace id)

/-- The invariant of a rehearsal. While a stop waits, `halted` says that the controller is told. -/
structure Staged (sim : Simulation) (granted : Nat) (halted : Bool) (rig : Rig) : Prop where
  company : Company sim granted halted rig
  roster : rig.Roster
  /-- Controllers that are still to be built have said nothing. -/
  unborn : ∀ id, rig.counters.constructed < id →
    emittedBy id rig.trace = [] ∧ id ∉ exited rig.trace
  tracked : rig.dispatcher.tracker.established = emittedTimes (tunnelsNotice 1) rig.trace
  surfacing : Surfacing rig.trace
  strays : strays rig.trace = 0

structure Silent (rig next : Rig) : Prop where
  trace : ∃ events, next.trace = events ++ rig.trace ∧ ∀ e ∈ events, e.event.isSilent = true
  established : next.counters.established = rig.counters.established
  terminations : next.counters.terminations = rig.counters.terminations
  constructed : rig.counters.constructed ≤ next.counters.constructed
  tracker : next.dispatcher.tracker = rig.dispatcher.tracker
  strays : strays next.trace = strays rig.trace

namespace Silent
variable (silent : Silent rig next)
include silent

theorem emissions : emissions next.trace = emissions rig.trace := by
  obtain ⟨events, trace, none⟩ := silent.trace
  rw [trace, emissions_silent none]

theorem exited : exited next.trace = exited rig.trace := by
  obtain ⟨events, trace, none⟩ := silent.trace
  rw [trace, exited_silent none]

theorem emittedBy (id : Nat) : emittedBy id next.trace = emittedBy id rig.trace := by
  unfold History.emittedBy
  rw [silent.emissions]

theorem emittedTimes (notice : List UInt8) :
    emittedTimes notice next.trace = emittedTimes notice rig.trace := by
  unfold History.emittedTimes
  rw [silent.emissions]

theorem surfacing (surfacing : Surfacing rig.trace) : Surfacing next.trace := by
  obtain ⟨events, trace, none⟩ := silent.trace
  rw [trace]
  exact surfacing.append fun e he => Event.isPeak_of_isSilent (none e he)

theorem finished {id : Nat} (finished : Finished rig.trace id) : Finished next.trace id := by
  unfold Finished
  rw [silent.emittedBy, silent.exited]
  exact finished

theorem books {ends : LooseEnds} (books : Books granted ends rig) : Books granted ends next := by
  obtain ⟨established, terminations, up, spare, owed⟩ := books
  constructor <;> simp only [silent.emittedTimes, silent.established, silent.terminations]
  · exact established
  · exact terminations
  · exact up
  · exact Nat.le_trans spare (Nat.add_le_add_left silent.constructed _)
  · exact owed

theorem company {halted : Bool} (company : Company sim granted halted rig)
    (same : next.tasks = rig.tasks) : Company sim granted halted next := by
  cases company with
  | vacant vacant books others =>
    exact .vacant (same.trans vacant) (silent.books books) fun id => silent.finished (others id)
  | sole sole footing exits told books others =>
    rw [← silent.emittedBy] at footing
    rw [← silent.exited] at exits
    exact .sole (same.trans sole) footing exits told (silent.books books)
      fun id other => silent.finished (others id other)

end Silent

namespace Staged
variable {halted : Bool} (staged : Staged sim granted halted rig)
include staged

theorem silent {granted : Nat} {halted : Bool} (silent : Silent rig next) (roster : next.Roster)
    (company : Company sim granted halted next) : Staged sim granted halted next where
  company
  roster
  unborn id new := by
    rw [silent.emittedBy, silent.exited]
    exact staged.unborn id (Nat.lt_of_le_of_lt silent.constructed new)
  tracked := by
    rw [silent.tracker, silent.emittedTimes]
    exact staged.tracked
  surfacing := silent.surfacing staged.surfacing
  strays := silent.strays.trans staged.strays

theorem elapse (time : Nat) : Staged sim granted halted { rig with now := time } := by
  have silent : Silent rig { rig with now := time } :=
    ⟨⟨[], rfl, List.forall_mem_nil _⟩, rfl, rfl, Nat.le_refl _, rfl, rfl⟩
  exact staged.silent silent (staged.roster.elapse time) (silent.company staged.company rfl)

theorem take (request : Request) : Staged sim granted halted (rig.take request).2 := by
  have tracker : (rig.take request).2.dispatcher.tracker = rig.dispatcher.tracker := by
    cases request <;> rfl
  have silent : Silent rig (rig.take request).2 :=
    ⟨⟨[], rfl, List.forall_mem_nil _⟩, rfl, rfl, Nat.le_refl _, tracker, rfl⟩
  have roster : (rig.take request).2.Roster :=
    staged.roster.carry [] rfl (List.forall_mem_nil _) rfl rfl fun t mem => ⟨t, mem, rfl, rfl⟩
  exact staged.silent silent roster (silent.company staged.company rfl)

theorem refused (failure : Failure) : Staged sim granted halted (rig.refused failure) := by
  have silent : Silent rig (rig.refused failure) :=
    ⟨⟨[_], rfl, by simp [Event.isSilent]⟩, rfl, rfl, Nat.le_refl _, rfl, strays_pass rfl⟩
  exact staged.silent silent (staged.roster.refused failure) (silent.company staged.company rfl)

theorem of_sole (sole : rig.tasks = [t]) :
    ∃ ends, Footing sim (emittedBy t.id rig.trace) ends t ∧
      (t.id ∈ exited rig.trace ↔ t.stage = .exited) ∧ t.cancelled = halted ∧
        Books granted ends rig ∧ ∀ id, t.id ≠ id → Finished rig.trace id := by
  cases staged.company with
  | vacant vacant => cases sole.symm.trans vacant
  | sole only footing exits told books others =>
    cases sole.symm.trans only
    exact ⟨_, footing, exits, told, books, others⟩

theorem of_vacant (vacant : rig.tasks = []) :
    Books granted {} rig ∧ ∀ id, Finished rig.trace id := by
  cases staged.company with
  | vacant _ books others => exact ⟨books, others⟩
  | sole sole => cases vacant.symm.trans sole

theorem released (sole : rig.tasks = [t]) : Staged sim granted true (rig.released t) := by
  obtain ⟨ends, footing, exits, -, books, others⟩ := staged.of_sole sole
  have silent : Silent rig (rig.released t) :=
    ⟨⟨[], rfl, List.forall_mem_nil _⟩, rfl, rfl, Nat.le_refl _, rfl, rfl⟩
  exact staged.silent silent (staged.roster.released sole)
    (.sole rfl footing.cancel exits rfl (silent.books books) others)

theorem prodded (sole : rig.tasks = [t]) : Staged sim (granted + 1) halted (rig.prodded t) := by
  obtain ⟨ends, footing, exits, told, books, others⟩ := staged.of_sole sole
  have silent : Silent rig (rig.prodded t) :=
    ⟨⟨[_], rfl, by simp [Event.isSilent]⟩, rfl, rfl, Nat.le_refl _, rfl, strays_pass rfl⟩
  obtain ⟨owed, footing, one⟩ := footing.terminate
  have kept := silent.books books
  have promised : (rig.prodded t).counters.terminations + owed ≤ granted + 1 :=
    Nat.le_trans (Nat.add_le_add_left one _) (Nat.succ_le_succ kept.owed)
  have books : Books (granted + 1) { ends with owed } (rig.prodded t) :=
    ⟨kept.established, kept.terminations, kept.up, kept.spare, promised⟩
  refine staged.silent silent (staged.roster.prodded sole) (.sole rfl ?_ ?_ ?_ books ?_)
  · rw [t.terminate_id, silent.emittedBy]
    exact footing
  · rw [t.terminate_id, silent.exited, exits, Task.terminate_exited]
  · exact t.terminate_kept.cancelled.trans told
  · intro id other
    rw [t.terminate_id] at other
    exact silent.finished (others id other)

theorem joined {result : Except Failure Unit} (sole : rig.tasks = [t])
    (joined : rig.Joined t result next) : Staged sim granted false next := by
  obtain ⟨ends, footing, exits, -, books, others⟩ := staged.of_sole sole
  cases joined with
  | crashed stage => exact absurd stage (footing.sound _)
  | exited stage =>
    have silent : Silent rig (rig.vacated (.controllerStopped t.id)) :=
      ⟨⟨[_], rfl, by simp [Event.isSilent]⟩, rfl, rfl, Nat.le_refl _, rfl, strays_pass rfl⟩
    obtain ⟨rfl, gone, up, said⟩ := footing.exited stage
    have left := exits.mpr stage
    refine staged.silent silent (staged.roster.vacated rfl) (.vacant rfl (silent.books books) ?_)
    intro id
    by_cases own : t.id = id
    · subst own
      refine silent.finished ⟨gone, up, ?_⟩
      rw [said, if_pos left]
    · exact silent.finished (others id own)

theorem staffed (fits : sim.Fits) (vacant : rig.tasks = []) :
    Staged sim granted false (rig.staffed sim.plan) := by
  obtain ⟨books, others⟩ := staged.of_vacant vacant
  have silent : Silent rig (rig.staffed sim.plan) :=
    ⟨⟨[_], rfl, by simp [Event.isSilent]⟩, rfl, rfl, Nat.le_succ _, rfl, strays_pass rfl⟩
  obtain ⟨unheard, unseen⟩ := staged.unborn (rig.recruit sim.plan).id (Nat.lt_succ_self _)
  have tasks : (rig.staffed sim.plan).tasks = [rig.recruit sim.plan] :=
    congrArg (rig.recruit sim.plan :: ·) vacant
  obtain ⟨established, terminations, up, spare, owed⟩ := silent.books books
  have room : emittedTimes (tunnelsNotice 1) rig.trace + 1 ≤
      emittedTimes (tunnelsNotice 0) rig.trace + (rig.counters.constructed + 1) :=
    Nat.succ_le_succ books.spare
  have opened : Books granted (Point.spawned.looseEnds false) (rig.staffed sim.plan) := by
    refine ⟨established, terminations, up, ?_, owed⟩
    rw [silent.emittedTimes, silent.emittedTimes]
    exact room
  have footing : Footing sim (speech 0 false) (Point.spawned.looseEnds false)
      (rig.recruit sim.plan) := by
    rw [recruit_pose rfl fits]
    exact .cycling .spawned 0 _ 0 0 false false rfl
  refine staged.silent silent (staged.roster.staffed sim.plan vacant)
    (.sole tasks ?_ ?_ rfl opened fun id _ => silent.finished (others id))
  · rw [silent.emittedBy, unheard]
    exact footing
  · rw [silent.exited]
    refine ⟨fun seen => absurd seen unseen, fun stage => ?_⟩
    cases stage

end Staged

theorem Books.after {ends rest : LooseEnds} {e : Controller.Effect} (books : Books granted ends rig)
    (voiced : rig.Voiced next t e) (follows : ends.After e rest)
    (terminations : next.counters.terminations =
      rig.counters.terminations + if e = .lower then 1 else 0)
    (constructed : next.counters.constructed = rig.counters.constructed) :
    Books granted rest next := by
  obtain ⟨counted, lowered, up, spare, owed⟩ := books
  have established := voiced.established
  obtain ⟨raises, lowers, stays, leaves, owes⟩ := follows
  -- the act's own part in each sum
  generalize (if e = .raise then 1 else 0) = raising at *
  generalize (if e = .lower then 1 else 0) = lowering at *
  have ups := voiced.emittedTimes (tunnelsNotice 1)
  have downs := voiced.emittedTimes (tunnelsNotice 0)
  constructor <;> omega

theorem Staged.act {halted : Bool} (staged : Staged sim granted halted rig) {id : Nat} {heed : Bool}
    (sole : rig.tasks = [t]) (stepped : rig.stepTask coin id heed = some next) :
    Staged sim granted halted next := by
  obtain ⟨ends, footing, exits, told, books, others⟩ := staged.of_sole sole
  obtain ⟨working, later, acted⟩ := Rig.acted coin sole stepped
  obtain ⟨mid, e, ran, ⟨results, after, handled, tasks, -⟩, terminations⟩ :=
    Rig.worked coin sole stepped
  obtain rfl : later = after := (List.cons.inj (acted.tasks.symm.trans tasks)).1
  have voiced := Rig.voiced coin sole ran stepped
  obtain ⟨rest, footing, follows, known⟩ := footing.handled ran handled
  have after := books.after voiced follows terminations acted.constructed
  refine ⟨.sole tasks ?_ ?_ (acted.kept.cancelled.trans told) after ?_,
    staged.roster.act sole stepped, ?_, ?_, voiced.surfacing staged.surfacing, ?_⟩
  · rw [acted.kept.id, voiced.emittedBy]
    exact footing
  · have before : t.id ∉ exited rig.trace := by
      intro seen
      rw [Task.isOver_of_exited (exits.mp seen)] at working
      cases working
    rw [acted.kept.id, voiced.mem_exited, handled.exited ran]
    simp [before]
  · intro id other
    rw [acted.kept.id] at other
    unfold Finished
    have same : id ∈ exited next.trace ↔ id ∈ exited rig.trace := by
      rw [voiced.mem_exited]
      simp [other]
    rw [voiced.emittedBy_other other]
    simp only [same]
    exact others id other
  · intro id new
    rw [acted.constructed] at new
    have number := staged.roster.numbered t (sole ▸ List.mem_singleton_self t)
    have other : t.id ≠ id := by omega
    rw [voiced.emittedBy_other other, voiced.mem_exited]
    obtain ⟨unheard, unseen⟩ := staged.unborn id new
    exact ⟨unheard, by simp [other, unseen]⟩
  · rw [handled.tracker, countP_establishes known, voiced.emittedTimes, staged.tracked]
  · have sound : later.hasCrashed = false := by
      unfold Task.hasCrashed
      split
      · exact absurd ‹_› (footing.sound _)
      · rfl
    rw [acted.strays, sound, staged.strays]
    rfl

section session
variable {halted : Bool} {result : Except Failure Unit}

theorem Staged.passage (staged : Staged sim granted halted rig) (passage : Passage coin rig next) :
    Staged sim granted halted next := by
  induction passage with
  | still => exact staged
  | act passage stepped ih =>
    cases ih.company with
    | vacant vacant => simp [Rig.stepTask, Rig.task?, vacant] at stepped
    | sole sole => exact ih.act sole stepped
  | elapse passage time ih => exact ih.elapse time

theorem Staged.start (fits : sim.Fits) (staged : Staged sim granted false rig) (kept : rig.Kept) :
    Staged sim granted false (rig.start sim.plan).2 := by
  cases kept.managed with
  | running phase held =>
    rw [Rig.start_held (by rw [held]; rfl)]
    exact staged
  | stopped phase unheld vacant =>
    cases refusal : sim.plan.refusal (rig.counters.attempts + 1) with
    | some failure =>
      rw [Rig.start_refused unheld refusal]
      exact staged.refused failure
    | none =>
      rw [Rig.start_built unheld refusal]
      exact staged.staffed fits vacant

theorem Staged.stops (staged : Staged sim granted false rig) (kept : rig.Kept)
    (stops : Stops coin rig result next) : Staged sim granted false next := by
  cases kept.managed with
  | stopped phase unheld =>
    obtain ⟨-, rfl⟩ := stops.idle_eq unheld
    exact staged
  | running phase held sole =>
    have released := Rig.cancel_sole sole held
    cases stops with
    | idle begun =>
      rw [released] at begun
      cases begun
    | joined begins passage ends =>
      rw [released] at begins
      cases begins
      have later := (staged.released sole).passage passage
      cases later.company with
      | vacant vacant => simp [Rig.join, Rig.task?, vacant] at ends
      | sole tasks => exact later.joined tasks (Rig.join_sole tasks ends).2

theorem Staged.terminateTimes (staged : Staged sim granted false rig) (kept : rig.Kept)
    (times : Nat) :
    Staged sim (granted + (Rig.terminateTimes times rig).1.count true) false
      (Rig.terminateTimes times rig).2 := by
  induction times generalizing rig granted with
  | zero => exact staged
  | succ times ih =>
    have later := kept.terminate
    unfold Rig.terminateTimes
    cases kept.managed with
    | stopped phase unheld vacant =>
      have unheard : rig.terminate = (false, rig) := by
        unfold Rig.terminate
        rw [unheld]
      rw [unheard]
      simpa using ih staged kept
    | running phase held sole =>
      have heard := Rig.terminate_sole sole held
      rw [heard] at later ⊢
      simpa [Nat.add_assoc, Nat.add_comm] using ih (staged.prodded sole) later

theorem Staged.operates {operation : Operation} {outcome : Outcome} (fits : sim.Fits)
    (staged : Staged sim granted false rig) (kept : rig.Kept)
    (operates : Operates coin sim.plan rig operation outcome next) :
    Staged sim (granted + outcome.granted) false next := by
  cases operates with
  | start => exact staged.start fits kept
  | stop stops => exact staged.stops kept stops
  | halted stops => exact staged.stops kept stops
  | replaced stops => exact (staged.stops kept stops).start fits (stops.kept kept)
  | terminate times => exact staged.terminateTimes kept times
  | advance ms passage => exact staged.passage passage
  | take request => exact staged.take request

end session

theorem Rehearsal.session (rehearsal : Rehearsal coin sim mode settleMs granted rig) :
    rig.Session coin sim.plan := by
  induction rehearsal with
  | new => exact .new _
  | operate rehearsal operates ih => exact ih.operate operates

theorem Rehearsal.staged (fits : sim.Fits)
    (rehearsal : Rehearsal coin sim mode settleMs granted rig) : Staged sim granted false rig := by
  induction rehearsal with
  | new =>
    have books : Books 0 {} { dispatcher := { mode, settleMs } } :=
      ⟨rfl, rfl, Nat.le_refl 0, Nat.le_refl 0, Nat.le_refl 0⟩
    exact ⟨.vacant rfl books fun _ => ⟨0, false, rfl⟩, .new _, fun _ _ => ⟨rfl, List.not_mem_nil⟩,
      rfl, .nil, rfl⟩
  | operate rehearsal operates ih => exact ih.operates fits rehearsal.session.kept operates

end Simulation

end TunnelSoak
