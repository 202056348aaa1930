import TunnelSoak.Proofs.Soak.Ledger

/-! What the observer sees of a run. It is shown the readings within the ceiling, one look
for each of them in order, and a reading above the ceiling is the run's last. The counts
that it is shown never fall. -/
namespace TunnelSoak

open History

namespace History

theorem snapshots_rise {ceiling : Nat} {h : History} (orderly : Throughout (Orderly ceiling) h) :
    (snapshots h).Pairwise (· ≤ ·) ∧ ∀ n ∈ snapshots h, n ≤ lastSnapshot h := by
  induction h with
  | nil => simp [snapshots, observations]
  | cons e h ih =>
    obtain ⟨place, before⟩ := orderly
    obtain ⟨rising, bounded⟩ := ih before
    rcases e with ⟨time, event⟩
    cases event with
    | sampled tick tunnels reading =>
      obtain ⟨-, -, -, -, -, grown⟩ := place
      have below : ∀ n ∈ snapshots h, n ≤ tunnels :=
        fun n hn => Nat.le_trans (bounded n hn) grown
      have shown : snapshots (⟨time, .sampled tick tunnels reading⟩ :: h) =
          snapshots h ++ [tunnels] := by
        unfold snapshots
        rw [observations_cons, List.map_append]
        rfl
      rw [shown]
      refine ⟨List.pairwise_append.mpr ⟨rising, List.pairwise_singleton _ _, ?_⟩, ?_⟩
      · simpa using below
      · intro n hn
        rcases List.mem_append.mp hn with hn | hn
        · exact below n hn
        · exact Nat.le_of_eq (List.mem_singleton.mp hn)
    | _ =>
      simp only [snapshots, observations_cons, Event.observation?, Option.toList_none,
        List.append_nil]
      exact ⟨rising, bounded⟩

end History

def Failure.isOverrun : Failure → Bool
  | .ceilingExceeded _ _ => true
  | _ => false

theorem RunConfig.isOverrun_of_rejected {c : RunConfig} {failure : Failure}
    (rejected : c.validate = .error failure) : failure.isOverrun = false := by
  unfold validate at rejected
  split at rejected
  · cases rejected
    rfl
  · split at rejected
    · cases rejected
      rfl
    · split at rejected <;> cases rejected
      rfl

namespace Soak

variable {setup : Setup} {s next : Soak} {move : Move}

def Stage.failure? : Stage → Option Failure
  | .closing _ (.error failure) => some failure
  | .over (.error failure) => some failure
  | _ => none

def Stage.isOverrun (stage : Stage) : Bool := stage.failure?.any Failure.isOverrun

/-- The observer has seen the readings within the ceiling, and at most the last one is not
among them. -/
structure Sighted (setup : Setup) (s : Soak) : Prop where
  within : (observations s.rig.trace).map (·.2.2) =
    (readings s.rig.trace).filter fun reading => reading.system ≤ setup.config.maxSysMemory
  missed : (readings s.rig.trace).length =
    (observations s.rig.trace).length + if s.stage.isOverrun then 1 else 0

/-- The factory does not speak of the ceiling when it fails. -/
def Unceiled (setup : Setup) : Prop :=
  ∀ attempt failure, setup.plan.refusal attempt = some failure → failure.isOverrun = false

theorem Sighted.unsampled (unread : readings s.rig.trace = [])
    (unseen : observations s.rig.trace = []) (stage : s.stage.isOverrun = false) :
    s.Sighted setup := by
  constructor
  · rw [unread, unseen]
    rfl
  · rw [unread, unseen, stage]
    rfl

theorem Opening.sighted (h : Opening setup s) (unceiled : Unceiled setup) : s.Sighted setup := by
  cases h with
  | invalid rejected =>
    exact .unsampled rfl rfl (RunConfig.isOverrun_of_rejected rejected)
  | refused valid refusal => exact .unsampled rfl rfl (unceiled _ _ refusal)
  | panicked | selecting => exact ⟨rfl, rfl⟩

namespace Sighted
variable (sighted : s.Sighted setup)
include sighted

theorem carry (events : History) (trace : next.rig.trace = events ++ s.rig.trace)
    (aside : ∀ e ∈ events, e.event.isSample = false)
    (stage : next.stage.isOverrun = s.stage.isOverrun) : next.Sighted setup := by
  constructor
  · rw [trace, observations_aside aside, readings_aside aside, sighted.within]
  · rw [trace, observations_aside aside, readings_aside aside, sighted.missed, stage]

theorem exceed (selecting : s.stage = .selecting)
    (above : setup.config.maxSysMemory < (setup.readings s.samples).system)
    (trace : next.rig.trace = (s.probed setup).rig.trace) (stage : next.stage.isOverrun = true) :
    next.Sighted setup := by
  have taken : readings (s.probed setup).rig.trace =
      readings s.rig.trace ++ [setup.readings s.samples] := readings_cons _ _
  have unseen : observations (s.probed setup).rig.trace = observations s.rig.trace :=
    (observations_cons _ _).trans (List.append_nil _)
  have even := sighted.missed
  rw [selecting] at even
  constructor
  · rw [trace, unseen, taken, List.filter_append, ← sighted.within]
    simp [above]
  · rw [trace, unseen, taken, List.length_append, even, stage]
    rfl

theorem observe (selecting : s.stage = .selecting)
    (within : (setup.readings s.samples).system ≤ setup.config.maxSysMemory)
    (events : History) (trace : next.rig.trace = events ++ (s.observed setup).trace)
    (aside : ∀ e ∈ events, e.event.isSample = false) (stage : next.stage.isOverrun = false) :
    next.Sighted setup := by
  have taken : readings (s.observed setup).trace =
      readings s.rig.trace ++ [setup.readings s.samples] :=
    (readings_cons _ _).trans ((List.append_nil _).trans (readings_cons _ _))
  have seen : (observations (s.observed setup).trace).map (·.2.2) =
      (observations s.rig.trace).map (·.2.2) ++ [setup.readings s.samples] := by
    unfold observed Rig.record
    rw [observations_cons, List.map_append]
    refine congrArg (· ++ _) (congrArg _ ?_)
    exact (observations_cons _ _).trans (List.append_nil _)
  have even := sighted.missed
  rw [selecting] at even
  constructor
  · rw [trace, observations_aside aside, readings_aside aside, seen, taken, List.filter_append,
      ← sighted.within]
    simp [within]
  · have count := congrArg List.length seen
    simp only [List.length_map, List.length_append] at count
    rw [trace, observations_aside aside, readings_aside aside, taken, List.length_append, even,
      count, stage]
    rfl

end Sighted

theorem Transition.sighted (h : Transition setup s move next) (unceiled : Unceiled setup)
    (sighted : s.Sighted setup) : next.Sighted setup := by
  have aside : ∀ e ∈ ([] : History), e.event.isSample = false := nofun
  cases h with
  | exceed stage sole held due room above => exact sighted.exceed stage above rfl rfl
  | stall stage sole held due room within => exact sighted.observe stage within [] rfl aside rfl
  | advance stage sole held due room within =>
    refine sighted.observe stage within [_] rfl (by simp [Event.isSample]) ?_
    change Stage.isOverrun s.stage = false
    rw [stage]
    rfl
  | act sole stepped working acted =>
    obtain ⟨events, trace, own⟩ := acted.own
    exact sighted.carry events trace
      (fun e he => Event.isSample_of_byController (own e he).2) rfl
  | overrun stage => exact sighted.carry [] rfl aside (by rw [stage]; rfl)
  | elapse => exact sighted.carry [] rfl aside rfl
  | expire stage | replace stage =>
    exact sighted.carry [_] rfl (by simp [Event.isSample]) (by rw [stage]; rfl)
  | reconnect => exact sighted.carry [_, _] rfl (by simp [Event.isSample]) rfl
  | renew stage | collapse stage =>
    exact sighted.carry [_, _] rfl (by simp [Event.isSample]) (by rw [stage]; rfl)
  | refuse stage sole unheld exited refusal =>
    refine sighted.carry [_, _, _] rfl (by simp [Event.isSample]) ?_
    rw [stage]
    exact unceiled _ _ refusal
  | @conclude t outcome stopped rig stage sole unheld joined =>
    -- The outcome of the loop stays, and a panicked controller is no reading.
    cases joined <;> cases outcome <;>
      exact sighted.carry [_, _] rfl (by simp [Event.isSample]) (by rw [stage]; rfl)

theorem Reachable.sighted (reach : Reachable setup s) (unceiled : Unceiled setup) :
    s.Sighted setup :=
  reach.induct (fun _ h => h.sighted unceiled) fun _ _ _ _ ih h => h.sighted unceiled ih

end Soak

end TunnelSoak
