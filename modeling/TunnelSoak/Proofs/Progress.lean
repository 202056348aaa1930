import TunnelSoak.Progress
import Mathlib.Data.List.DropRight

/-! What one number keeps of a whole history. The detector remembers the highest count it has
been shown, passed or failed, so a count passes exactly when it is above all that came before.
The tracker only ever counts up; shown its count, the detector therefore passes exactly when
there has been an increment since the check before. -/
namespace TunnelSoak.Progress

/-- Up to a highest count everything fails and changes nothing; what is above it passes and is
the highest from then on. -/
structure Remembers (p : Progress) (highest : Nat) : Prop where
  last : p.detector.last = highest
  verdict (count : Nat) : (p.observe count).2 =
    if count ≤ highest then .failed (.stalled highest count) else .passed
  after (count : Nat) : (p.observe count).1.detector.last = max highest count
  unchanged (count : Nat) (failure : Failure) :
    (p.observe count).2 = .failed failure → (p.observe count).1 = p

section observe
variable (p : Progress) (count : Nat)

theorem observe_of_le (h : count ≤ p.detector.last) :
    p.observe count = (p, .failed (.stalled p.detector.last count)) := by
  simp [observe, StallDetector.observe, h]

theorem observe_of_lt (h : p.detector.last < count) :
    p.observe count = ({ p with detector := ⟨count⟩ }, .passed) := by
  simp [observe, StallDetector.observe, Nat.not_le_of_lt h]

theorem observe_untracked (tracker : Tracker) : ({ p with tracker } : Progress).observe count =
    ({ (p.observe count).1 with tracker }, (p.observe count).2) := by
  rcases Nat.lt_or_ge p.detector.last count with above | below
  · rw [observe_of_lt p count above]
    exact observe_of_lt _ count above
  · rw [observe_of_le p count below]
    exact observe_of_le _ count below

@[simp] theorem observe_tracker : (p.observe count).1.tracker = p.tracker :=
  congrArg (fun outcome => outcome.1.tracker) (observe_untracked p count p.tracker)

@[simp] theorem observe_last :
    (p.observe count).1.detector.last = max p.detector.last count := by
  rcases Nat.lt_or_ge p.detector.last count with above | below
  · rw [observe_of_lt p count above]
    exact (Nat.max_eq_right (Nat.le_of_lt above)).symm
  · rw [observe_of_le p count below]
    exact (Nat.max_eq_left below).symm

theorem remembers_last : p.Remembers p.detector.last where
  last := rfl
  verdict count := by
    split
    · rw [observe_of_le p count ‹_›]
    · rw [observe_of_lt p count (Nat.not_le.mp ‹_›)]
  after count := observe_last p count
  unchanged count failure failed := by
    rcases Nat.lt_or_ge p.detector.last count with above | below
    · rw [observe_of_lt p count above] at failed
      cases failed
    · rw [observe_of_le p count below]

end observe

/-- The counts that a history shows the detector, where so many tunnels have been established
before it. A check shows the count of its moment. -/
def shown : Nat → List Step → List Nat
  | _, [] => []
  | count, .increment :: steps => shown (count + 1) steps
  | count, .snapshot :: steps => shown count steps
  | count, .check :: steps => count :: shown count steps
  | count, .observe other :: steps => other :: shown count steps

section shown
variable (count : Nat) (steps : List Step)

theorem shown_cons (step : Step) : shown count (step :: steps) =
    shown count [step] ++ shown (count + [step].count .increment) steps := by
  cases step <;> rfl

theorem shown_observe (others : List Nat) : shown count (others.map .observe) = others := by
  induction others with
  | nil => rfl
  | cons other others ih => rw [List.map_cons, shown, ih]

theorem shown_unseen (unseen : ∀ step ∈ steps, step ∈ [.increment, .snapshot]) :
    shown count steps = [] := by
  induction steps generalizing count with
  | nil => rfl
  | cons step steps ih =>
    obtain ⟨first, rest⟩ := List.forall_mem_cons.mp unseen
    cases step with
    | increment => exact ih (count + 1) rest
    | snapshot => exact ih count rest
    | check => simp at first
    | observe other => simp at first

end shown

section step
variable (p : Progress) (step : Step)

theorem step_tracker : (p.step step).1.tracker.established =
    p.tracker.established + [step].count .increment := by
  cases step with
  | increment => rfl
  | snapshot => rfl
  | check => exact congrArg Tracker.established (observe_tracker p p.tracker.established)
  | observe other => exact congrArg Tracker.established (observe_tracker p other)

theorem step_last : (p.step step).1.detector.last =
    (shown p.tracker.established [step]).foldl max p.detector.last := by
  cases step with
  | increment => rfl
  | snapshot => rfl
  | check => exact observe_last p p.tracker.established
  | observe other => exact observe_last p other

end step

def run (p : Progress) (steps : List Step) : Progress :=
  steps.foldl (fun p step => (p.step step).1) p

section run
variable (p : Progress) (steps : List Step)

theorem run_concat (step : Step) : p.run (steps ++ [step]) = ((p.run steps).step step).1 := by
  rw [run, List.foldl_append]
  rfl

theorem run_tracker :
    (p.run steps).tracker.established = p.tracker.established + steps.count .increment := by
  induction steps generalizing p with
  | nil => rfl
  | cons step steps ih =>
    change ((p.step step).1.run steps).tracker.established = _
    rw [ih, step_tracker, Nat.add_assoc, ← List.count_append, List.singleton_append]

theorem run_tracker_new : (run {} steps).tracker.established = steps.count .increment :=
  (run_tracker {} steps).trans (Nat.zero_add _)

theorem run_last : (p.run steps).detector.last =
    (shown p.tracker.established steps).foldl max p.detector.last := by
  induction steps generalizing p with
  | nil => rfl
  | cons step steps ih =>
    change ((p.step step).1.run steps).detector.last = _
    rw [ih, step_tracker, step_last, shown_cons _ steps, List.foldl_append]

variable {steps} (unseen : ∀ step ∈ steps, step ∈ [.increment, .snapshot])
include unseen

theorem run_unseen :
    p.run steps = ⟨⟨p.tracker.established + steps.count .increment⟩, p.detector⟩ := by
  have last : (p.run steps).detector.last = p.detector.last := by
    rw [run_last, shown_unseen _ _ unseen]
    rfl
  exact congrArg₂ Progress.mk (congrArg Tracker.mk (run_tracker p steps))
    (congrArg StallDetector.mk last)

/-- A check comes out as at the moment of its look at the count, whatever is established
before the detector is shown that count. -/
theorem observe_late : (p.run steps).observe p.tracker.established =
    ((p.step .check).1.run steps, (p.step .check).2) := by
  rw [run_unseen p unseen, run_unseen _ unseen, step_tracker]
  exact observe_untracked p _ _

end run

def sinceCheck (steps : List Step) : List Step := steps.rtakeWhile (· ≠ .check)

section routine
variable {steps : List Step} (routine : ∀ step ∈ steps, step ∈ [.increment, .snapshot, .check])
include routine

theorem last_add_sinceCheck : (run {} steps).detector.last +
    (sinceCheck steps).count .increment = steps.count .increment := by
  -- from the end of the history, where the last check stands
  induction steps using List.reverseRecOn with
  | nil => rfl
  | append_singleton steps step ih =>
    obtain ⟨before, final⟩ := List.forall_mem_append.mp routine
    have sum := ih before
    rw [run_concat, List.count_append]
    by_cases checked : step = .check
    · have since : sinceCheck (steps ++ [step]) = [] :=
        List.rtakeWhile_concat_neg _ _ _ (by simp [checked])
      have counted := run_tracker_new steps
      rw [since, step_last, checked]
      change max _ (run {} steps).tracker.established + 0 = _ + 0
      omega
    · have since : sinceCheck (steps ++ [step]) = sinceCheck steps ++ [step] :=
        List.rtakeWhile_concat_pos _ _ _ (by simp [checked])
      have unseen : ∀ other ∈ [step], other ∈ [.increment, .snapshot] := by
        simpa [checked] using final
      rw [since, step_last, shown_unseen _ _ unseen, List.count_append, ← Nat.add_assoc]
      exact congrArg (· + _) sum

theorem check_routine : ((run {} steps).step .check).2 =
    if .increment ∈ sinceCheck steps then .passed
    else .failed (.stalled (steps.count .increment) (steps.count .increment)) := by
  have counted := run_tracker_new steps
  have sum := last_add_sinceCheck routine
  have advanced : .increment ∈ sinceCheck steps ↔ 0 < (sinceCheck steps).count .increment :=
    List.count_pos_iff.symm
  change ((run {} steps).observe _).2 = _
  split
  · have above := advanced.mp ‹_›
    rw [observe_of_lt _ _ (by omega)]
  · have level : (run {} steps).detector.last = steps.count .increment := by
      have none := mt advanced.mpr ‹_›
      omega
    rw [observe_of_le _ _ (by omega), counted, level]

end routine

/-- A word of 64 bits that increments count up and that starts again when it is full. -/
def Step.tally (word : UInt64) : Step → UInt64
  | .increment => word + 1
  | _ => word

theorem toNat_tally (word : UInt64) (steps : List Step) :
    (steps.foldl Step.tally word).toNat =
      (word.toNat + steps.count .increment) % Nat.pow 2 64 := by
  induction steps generalizing word with
  | nil => exact (Nat.mod_eq_of_lt word.toNat_lt).symm
  | cons step steps ih =>
    rw [List.foldl_cons, ih]
    cases step with
    | increment =>
      rw [Step.tally, UInt64.toNat_add, List.count_cons_self, Nat.add_comm (steps.count _)]
      exact (Nat.mod_add_mod _ _ _).trans (congrArg (· % _) (Nat.add_assoc _ _ _))
    | _ => rfl

/-- The detector remembers the highest of all counts that it has been shown. In a history of
increments, snapshots and checks, whose increments a word can count, a check passes exactly when
there has been an increment since the check before it, and one that fails names the count twice;
increments between the look at the count and its check are left to the next check. -/
theorem stalls_follow_history :
    (∀ steps, (run {} steps).Remembers ((shown 0 steps).foldl max 0)) ∧
      (∀ counts, shown 0 (counts.map .observe) = counts) ∧
      ∀ steps, (∀ step ∈ steps, step ∈ [.increment, .snapshot, .check]) →
        steps.count .increment < Nat.pow 2 64 →
        let p := run {} steps
        let count := steps.count .increment
        (p.tracker.established = count ∧ (steps.foldl Step.tally 0).toNat = count) ∧
          (p.step .check).2 =
            (if .increment ∈ sinceCheck steps then .passed else .failed (.stalled count count)) ∧
          ∀ later, (∀ step ∈ later, step ∈ [.increment, .snapshot]) →
            (p.run later).observe count = ((p.step .check).1.run later, (p.step .check).2) := by
  refine ⟨fun steps => ?_, shown_observe 0, fun steps routine fits => ?_⟩
  · have last : (run {} steps).detector.last = (shown 0 steps).foldl max 0 := run_last {} steps
    exact last ▸ remembers_last _
  · have counted := run_tracker_new steps
    have tallied : (steps.foldl Step.tally 0).toNat = steps.count .increment := by
      rw [toNat_tally, Nat.mod_eq_of_lt]
      · exact Nat.zero_add _
      · exact (Nat.zero_add _).symm ▸ fits
    refine ⟨⟨counted, tallied⟩, check_routine routine, fun later unseen => ?_⟩
    rw [← counted]
    exact observe_late _ unseen

/-- Two tunnels before the second check and none before the third. -/
def faltering : List Step :=
  [.check, .increment, .snapshot, .increment, .check, .snapshot, .check]

theorem faltering_stalls_until_incremented :
    ((run {} faltering).step .check).2 = .failed (.stalled 2 2) ∧
      ((run {} (faltering ++ [.increment])).step .check).2 = .passed ∧
      ((run {} (faltering ++ [.increment])).run [.increment]).observe 3 =
        (⟨⟨4⟩, ⟨3⟩⟩, .passed) ∧
      (run {} [.observe 5, .increment, .check, .observe 5]).Remembers 5 := by
  obtain ⟨remembers, -, routine⟩ := stalls_follow_history
  obtain ⟨-, stalled, -⟩ := routine faltering (by decide) (by decide)
  obtain ⟨-, passed, late⟩ := routine (faltering ++ [.increment]) (by decide) (by decide)
  exact ⟨stalled, passed, late [.increment] (by decide),
    remembers [.observe 5, .increment, .check, .observe 5]⟩

end TunnelSoak.Progress
