import TunnelSoak.Proofs.Soak.Transition

/-! The sums of a run against its trace: the numbers that end up in the report are
those that the trace gives, and every sample stands in its right place. -/
namespace TunnelSoak

open History

namespace History

def peak (h : History) : Nat := (readings h).foldl (fun peak reading => max peak reading.system) 0

def lastCumulative (h : History) : Nat :=
  ((readings h).getLast?.map MemoryReading.cumulative).getD 0

/-- The place of a sample among the samples before it. A sample is a reading and, unless
the reading exceeds the ceiling, one look of the observer right after it. -/
def Orderly (ceiling : Nat) (e : Entry) (before : History) : Prop :=
  match e.event with
  | .memoryRead _ => (observations before).length = (readings before).length
  | .sampled tick tunnels reading =>
    tick = (readings before).length ∧ tick = (observations before).length + 1 ∧
      (readings before).getLast? = some reading ∧ reading.system ≤ ceiling ∧
      tunnels = establishments before ∧ lastSnapshot before ≤ tunnels
  | _ => True

theorem orderly_of_aside {ceiling : Nat} {e : Entry} {before : History}
    (aside : e.event.isSample = false) : Orderly ceiling e before := by
  unfold Orderly
  split
  · simp_all [Event.isSample]
  · simp_all [Event.isSample]
  · trivial

end History

namespace Soak

def Stage.hasFailed : Stage → Bool
  | .closing _ (.error _) => true
  | .over (.error _) => true
  | _ => false

structure Ledger (setup : Setup) (s : Soak) : Prop where
  samples : s.samples = (readings s.rig.trace).length
  drawn : readings s.rig.trace = (List.range s.samples).map setup.readings
  tracker : s.rig.dispatcher.tracker.established = establishments s.rig.trace
  last : s.detector.last = lastSnapshot s.rig.trace
  bounded : lastSnapshot s.rig.trace ≤ establishments s.rig.trace
  peak : s.peak = History.peak s.rig.trace
  lastCumulative : s.lastCumulative = History.lastCumulative s.rig.trace
  terminateCalls : s.rig.counters.terminateCalls = terminates s.rig.trace
  orderly : Throughout (Orderly setup.config.maxSysMemory) s.rig.trace

/-- While nothing has failed, the observer has looked at every sample. -/
def Paired (s : Soak) : Prop :=
  s.stage.hasFailed = false → (observations s.rig.trace).length = s.samples

namespace Ledger
variable {setup : Setup} {s next : Soak} (ledger : s.Ledger setup)
include ledger

theorem carry (events : List Entry) (trace : next.rig.trace = events ++ s.rig.trace)
    (aside : ∀ e ∈ events, e.event.isSample = false)
    (sums : next.samples = s.samples ∧ next.detector = s.detector ∧ next.peak = s.peak ∧
      next.lastCumulative = s.lastCumulative)
    (tracker : next.rig.dispatcher.tracker.established + establishments s.rig.trace =
      s.rig.dispatcher.tracker.established + establishments next.rig.trace)
    (calls : next.rig.counters.terminateCalls + terminates s.rig.trace =
      s.rig.counters.terminateCalls + terminates next.rig.trace) :
    next.Ledger setup := by
  obtain ⟨samples, detector, peak, lastCumulative⟩ := sums
  have drawn : readings next.rig.trace = readings s.rig.trace := by
    rw [trace, readings_aside aside]
  have shown : lastSnapshot next.rig.trace = lastSnapshot s.rig.trace := by
    rw [trace, lastSnapshot_aside aside]
  refine ⟨?_, ?_, ?_, ?_, ?_, ?_, ?_, ?_, ?_⟩
  · rw [samples, ledger.samples, drawn]
  · rw [samples, drawn, ledger.drawn]
  · have := ledger.tracker
    omega
  · rw [detector, ledger.last, shown]
  · have grown : establishments s.rig.trace ≤ establishments next.rig.trace := by
      rw [trace]
      exact (List.sublist_append_right _ _).countP_le
    exact shown ▸ Nat.le_trans ledger.bounded grown
  · rw [peak, ledger.peak, History.peak, History.peak, drawn]
  · rw [lastCumulative, ledger.lastCumulative, History.lastCumulative, History.lastCumulative,
      drawn]
  · have := ledger.terminateCalls
    omega
  · rw [trace]
    exact ledger.orderly.append fun e he _ => orderly_of_aside (aside e he)

theorem probed (paired : (observations s.rig.trace).length = s.samples) :
    (s.probed setup).Ledger setup := by
  have taken : readings (s.probed setup).rig.trace =
      readings s.rig.trace ++ [setup.readings s.samples] := readings_cons _ _
  refine ⟨?_, ?_, ledger.tracker, ledger.last, ledger.bounded, ?_, ?_, ledger.terminateCalls, ?_⟩
  · rw [taken, List.length_append, ← ledger.samples]
    rfl
  · rw [taken, ledger.drawn]
    exact (List.range_succ ▸ List.map_append).symm
  · rw [History.peak, taken, List.foldl_append]
    exact congrArg (max · _) ledger.peak
  · rw [History.lastCumulative, taken]
    simp [Soak.probed, measure]
  · exact ⟨paired.trans ledger.samples, ledger.orderly⟩

theorem observed (paired : (observations s.rig.trace).length = s.samples)
    (within : (setup.readings s.samples).system ≤ setup.config.maxSysMemory)
    (detector : StallDetector) (shown : detector.last = s.rig.dispatcher.tracker.established) :
    Ledger setup { s.probed setup with rig := s.observed setup, detector } := by
  have sums := ledger.probed paired
  have taken : readings (s.probed setup).rig.trace =
      readings s.rig.trace ++ [setup.readings s.samples] := readings_cons _ _
  have same : readings (s.observed setup).trace = readings (s.probed setup).rig.trace :=
    (readings_cons _ _).trans (List.append_nil _)
  have bounded := ledger.tracker ▸ ledger.bounded
  refine ⟨?_, ?_, ledger.tracker, shown, Nat.le_of_eq ledger.tracker, ?_, ?_, ledger.terminateCalls,
    ⟨⟨?_, ?_, ?_, within, ledger.tracker, bounded⟩, sums.orderly⟩⟩
  · exact sums.samples.trans (congrArg List.length same.symm)
  · exact same.trans sums.drawn
  · exact sums.peak.trans (by rw [History.peak, History.peak, same])
  · exact sums.lastCumulative.trans (by rw [History.lastCumulative, History.lastCumulative, same])
  · exact sums.samples
  · exact congrArg (· + 1) paired.symm
  · rw [taken, List.getLast?_concat]

end Ledger

theorem Opening.ledger {setup : Setup} {s : Soak} (h : Opening setup s) :
    s.Ledger setup ∧ s.Paired := by
  cases h with
  | invalid =>
    exact ⟨⟨rfl, rfl, rfl, rfl, Nat.le_refl _, rfl, rfl, rfl, trivial⟩, fun _ => rfl⟩
  | refused | panicked | selecting =>
    exact ⟨⟨rfl, rfl, rfl, rfl, Nat.le_refl _, rfl, rfl, rfl, trivial, trivial, trivial⟩,
      fun _ => rfl⟩

theorem Paired.selecting {s : Soak} (paired : s.Paired) (stage : s.stage = .selecting) :
    (observations s.rig.trace).length = s.samples :=
  paired (by rw [stage]; rfl)

theorem Ledger.pass {setup : Setup} {s next : Soak} (ledger : s.Ledger setup)
    (paired : s.Paired) (events : List Entry)
    (trace : next.rig.trace = events ++ s.rig.trace)
    (aside : ∀ e ∈ events, e.event.isSample = false)
    (sums : next.samples = s.samples ∧ next.detector = s.detector ∧ next.peak = s.peak ∧
      next.lastCumulative = s.lastCumulative)
    (tracker : next.rig.dispatcher.tracker.established + establishments s.rig.trace =
      s.rig.dispatcher.tracker.established + establishments next.rig.trace)
    (calls : next.rig.counters.terminateCalls + terminates s.rig.trace =
      s.rig.counters.terminateCalls + terminates next.rig.trace)
    (stage : next.stage.hasFailed = false → s.stage.hasFailed = false) :
    next.Ledger setup ∧ next.Paired := by
  refine ⟨ledger.carry events trace aside sums tracker calls, fun good => ?_⟩
  rw [trace, observations_aside aside, sums.1, paired (stage good)]

theorem Transition.ledger {setup : Setup} {s next : Soak} {move : Move}
    (h : Transition setup s move next) (ledger : s.Ledger setup) (paired : s.Paired) :
    next.Ledger setup ∧ next.Paired := by
  have none : ∀ e ∈ ([] : History), e.event.isSample = false := by simp
  cases h with
  | @act t after rig heed sole stepped working acted =>
    obtain ⟨events, trace, own⟩ := acted.own
    refine ledger.pass paired events trace
      (fun e he => Event.isSample_of_byController (own e he).2) ⟨rfl, rfl, rfl, rfl⟩
      acted.established ?_ id
    simp only [acted.terminateCalls, trace, terminates_own fun e he => (own e he).2]
  | expire stage =>
    exact ledger.pass paired [_] rfl (by simp [Event.isSample])
      ⟨rfl, rfl, rfl, rfl⟩ rfl rfl fun _ => by rw [stage]; rfl
  | exceed stage =>
    have sums := ledger.probed (paired.selecting stage)
    exact ⟨sums.carry [] rfl none ⟨rfl, rfl, rfl, rfl⟩ rfl rfl,
      fun good => by cases good⟩
  | stall stage sole held due room within stuck =>
    have same : s.detector.last = s.rig.dispatcher.tracker.established :=
      Nat.le_antisymm (by rw [ledger.last, ledger.tracker]; exact ledger.bounded) stuck
    have sums := ledger.observed (paired.selecting stage) within s.detector same
    exact ⟨sums.carry [] rfl none ⟨rfl, rfl, rfl, rfl⟩ rfl rfl,
      fun good => by cases good⟩
  | advance stage sole held due room within =>
    have sums := ledger.observed (paired.selecting stage) within
      ⟨s.rig.dispatcher.tracker.established⟩ rfl
    refine ⟨sums.carry [_] rfl (by simp [Event.isSample]) ⟨rfl, rfl, rfl, rfl⟩ rfl rfl,
      fun _ => ?_⟩
    change (observations (_ :: _ :: _ :: s.rig.trace)).length = s.samples + 1
    simp only [observations_cons, List.length_append, paired.selecting stage]
    rfl
  | reconnect =>
    refine ledger.pass paired [_, _] rfl (by simp [Event.isSample])
      ⟨rfl, rfl, rfl, rfl⟩ rfl ?_ id
    simp [Rig.prodded, Rig.taken, terminates, Event.isTerminate]
    omega
  | replace stage =>
    exact ledger.pass paired [_] rfl (by simp [Event.isSample])
      ⟨rfl, rfl, rfl, rfl⟩ rfl rfl fun _ => by rw [stage]; rfl
  | renew stage =>
    exact ledger.pass paired [_, _] rfl (by simp [Event.isSample])
      ⟨rfl, rfl, rfl, rfl⟩ rfl rfl fun _ => by rw [stage]; rfl
  | refuse =>
    exact ledger.pass paired [_, _, _] rfl (by simp [Event.isSample])
      ⟨rfl, rfl, rfl, rfl⟩ rfl rfl fun good => by cases good
  | collapse =>
    exact ledger.pass paired [_, _] rfl (by simp [Event.isSample])
      ⟨rfl, rfl, rfl, rfl⟩ rfl rfl fun good => by cases good
  | @conclude t outcome stopped rig stage sole unheld joined =>
    have end_stage : (({ s with rig } : Soak).conclude outcome stopped).stage.hasFailed = false →
        s.stage.hasFailed = false := by
      rw [stage]
      intro good
      cases outcome with
      | ok => rfl
      | error => cases good
    cases joined with
    | exited =>
      cases outcome <;> exact ledger.pass paired [_, _] rfl (by simp [Event.isSample])
        ⟨rfl, rfl, rfl, rfl⟩ rfl rfl end_stage
    | crashed =>
      cases outcome <;> exact ledger.pass paired [_, _] rfl (by simp [Event.isSample])
        ⟨rfl, rfl, rfl, rfl⟩ rfl rfl end_stage
  | overrun stage =>
    exact ledger.pass paired [] rfl none ⟨rfl, rfl, rfl, rfl⟩ rfl rfl
      fun _ => by rw [stage]; rfl
  | elapse =>
    exact ledger.pass paired [] rfl none ⟨rfl, rfl, rfl, rfl⟩ rfl rfl id

theorem Reachable.ledger {setup : Setup} {s : Soak} (reach : Reachable setup s) :
    s.Ledger setup ∧ s.Paired :=
  reach.induct (fun _ h => h.ledger) fun _ _ _ _ ih h => h.ledger ih.1 ih.2

end Soak

end TunnelSoak
