import TunnelSoak.Proofs.Soak.Accounts
import TunnelSoak.Proofs.Soak.Run
import TunnelSoak.Proofs.Soak.Samples

/-! When samples are taken. A sample is due an interval after the one before it was due, or
was taken where the loop came to it late, so the samples keep their distance however long a
restart blocks the loop. A loop that never blocks comes to each of them in time, and as long
as time goes on it comes to all of them until it is left. -/
namespace TunnelSoak

open History

theorem Event.reading?_of_byController {event : Event} (own : event.byController = true) :
    event.reading? = none := by
  cases event <;> first | rfl | cases own

def Entry.probeTime? (e : Entry) : Option Nat := e.event.reading?.map fun _ => e.time

namespace History

def probeTimes (h : History) : List Nat := (h.filterMap Entry.probeTime?).reverse

def lastProbe (h : History) : Nat := (probeTimes h).getLast?.getD 0

theorem probeTimes_aside {events h : History} (aside : ∀ e ∈ events, e.event.reading? = none) :
    probeTimes (events ++ h) = probeTimes h := by
  have none : events.filterMap Entry.probeTime? = [] := by
    apply List.filterMap_eq_nil_iff.mpr
    intro e he
    rw [Entry.probeTime?, aside e he]
    rfl
  rw [probeTimes, List.filterMap_append, none, List.nil_append, probeTimes]

theorem probeTimes_read (time : Nat) (reading : MemoryReading) (h : History) :
    probeTimes (⟨time, .memoryRead reading⟩ :: h) = probeTimes h ++ [time] := List.reverse_cons

end History

theorem getElem?_concat_cases {l : List Nat} {a b n : Nat} (found : (l ++ [a])[n]? = some b) :
    l[n]? = some b ∨ (n = l.length ∧ b = a) := by
  rcases Nat.lt_trichotomy n l.length with old | last | beyond
  · rw [List.getElem?_append_left old] at found
    exact .inl found
  · rw [last, List.getElem?_concat_length] at found
    exact .inr ⟨last, (Option.some.inj found).symm⟩
  · rw [List.getElem?_eq_none (by rw [List.length_append]; exact beyond)] at found
    cases found

namespace Soak

variable {setup : Setup} {s next : Soak} {move : Move}

structure Spaced (setup : Setup) (s : Soak) : Prop where
  count : (probeTimes s.rig.trace).length = s.samples
  past : ∀ time ∈ probeTimes s.rig.trace, time ≤ s.rig.now
  floor : ∀ n time, (probeTimes s.rig.trace)[n]? = some time → (n + 1) * setup.intervalMs ≤ time
  apart : ∀ n time later, (probeTimes s.rig.trace)[n]? = some time →
    (probeTimes s.rig.trace)[n + 1]? = some later → time + setup.intervalMs ≤ later + tickSlackMs
  due : s.isOver = false → (s.samples + 1) * setup.intervalMs ≤ s.nextTick ∧
    s.nextTick ≤ lastProbe s.rig.trace + setup.intervalMs ∧
    lastProbe s.rig.trace + setup.intervalMs ≤ s.nextTick + tickSlackMs

theorem Opening.spaced (h : Opening setup s) : s.Spaced setup := by
  cases h with
  | invalid | refused | panicked => exact ⟨rfl, nofun, nofun, nofun, nofun⟩
  | selecting =>
    refine ⟨rfl, nofun, nofun, nofun, fun _ => ⟨?_, ?_, ?_⟩⟩
    · exact Nat.le_of_eq (Nat.one_mul _)
    · exact Nat.le_add_left _ _
    · exact Nat.le_trans (Nat.le_of_eq (Nat.zero_add _)) (Nat.le_add_right _ _)

namespace Spaced
variable (spaced : s.Spaced setup)
include spaced

theorem carry (events : History) (trace : next.rig.trace = events ++ s.rig.trace)
    (aside : ∀ e ∈ events, e.event.reading? = none) (now : s.rig.now ≤ next.rig.now)
    (loop : next.samples = s.samples ∧ next.nextTick = s.nextTick)
    (going : next.isOver = false → s.isOver = false) : next.Spaced setup := by
  obtain ⟨samples, nextTick⟩ := loop
  have same : probeTimes next.rig.trace = probeTimes s.rig.trace := by
    rw [trace, probeTimes_aside aside]
  obtain ⟨count, past, floor, apart, due⟩ := spaced
  refine ⟨?_, ?_, ?_, ?_, fun on => ?_⟩
  · rw [same, count, samples]
  · rw [same]
    exact fun time mem => Nat.le_trans (past time mem) now
  · rw [same]
    exact floor
  · rw [same]
    exact apart
  · rw [lastProbe, same, samples, nextTick]
    exact due (going on)

theorem probe (timely : s.Timely setup) (valid : setup.config.validate = .ok ())
    (on : s.isOver = false) (late : s.nextTick ≤ s.rig.now) (events : History)
    (trace : next.rig.trace = events ++ (s.probed setup).rig.trace)
    (aside : ∀ e ∈ events, e.event.reading? = none) (now : next.rig.now = s.rig.now)
    (loop : next.samples = s.samples + 1 ∧ next.nextTick = (s.probed setup).nextTick) :
    next.Spaced setup := by
  obtain ⟨samples, nextTick⟩ := loop
  have taken : probeTimes next.rig.trace = probeTimes s.rig.trace ++ [s.rig.now] := by
    rw [trace, probeTimes_aside aside]
    exact probeTimes_read _ _ _
  have last : lastProbe next.rig.trace = s.rig.now := by
    rw [lastProbe, taken, List.getLast?_concat, Option.getD_some]
  have ahead : ∃ base, next.nextTick = base + setup.intervalMs ∧ s.nextTick ≤ base ∧
      base ≤ s.rig.now ∧ s.rig.now ≤ base + tickSlackMs :=
    nextTick ▸ timely.exists_probed valid late
  obtain ⟨count, past, floor, apart, due⟩ := spaced
  obtain ⟨low, -, high⟩ := due on
  refine ⟨?_, ?_, ?_, ?_, fun _ => ?_⟩
  · rw [taken, List.length_append, count, samples, List.length_singleton]
  · rw [taken, now]
    intro time mem
    rcases List.mem_append.mp mem with mem | mem
    · exact past time mem
    · exact Nat.le_of_eq (List.mem_singleton.mp mem)
  · rw [taken]
    intro n time found
    rcases getElem?_concat_cases found with old | ⟨rfl, rfl⟩
    · exact floor n time old
    · rw [count]
      exact Nat.le_trans low late
  · rw [taken]
    intro n time later found after
    have bound := (List.getElem?_eq_some_iff.mp after).1
    rw [List.length_append, List.length_singleton] at bound
    rw [List.getElem?_append_left (Nat.lt_of_succ_lt_succ bound)] at found
    rcases getElem?_concat_cases after with old | ⟨latest, rfl⟩
    · exact apart n time later found old
    · have before : lastProbe s.rig.trace = time := by
        rw [lastProbe, List.getLast?_eq_getElem?, ← latest, Nat.add_sub_cancel, found]
        rfl
      rw [before] at high
      exact Nat.le_trans high (Nat.add_le_add_right late _)
  · obtain ⟨base, set, lower, upper, slack⟩ := ahead
    rw [last, set, samples, Nat.succ_mul]
    refine ⟨?_, ?_, ?_⟩ <;> omega

end Spaced

theorem Transition.spaced (h : Transition setup s move next) (timely : s.Timely setup)
    (valid : setup.config.validate = .ok ()) (spaced : s.Spaced setup) : next.Spaced setup := by
  have on (stage : s.stage = .selecting) : s.isOver = false := by rw [isOver, stage]
  have none : ∀ e ∈ ([] : History), e.event.reading? = none :=
    fun _ mem => absurd mem List.not_mem_nil
  cases h with
  | exceed stage sole held due =>
    exact spaced.probe timely valid (on stage) due [] rfl none rfl ⟨rfl, rfl⟩
  | stall stage sole held due =>
    exact spaced.probe timely valid (on stage) due [_] rfl (by simp [Event.reading?]) rfl
      ⟨rfl, rfl⟩
  | advance stage sole held due =>
    exact spaced.probe timely valid (on stage) due [_, _] rfl (by simp [Event.reading?]) rfl
      ⟨rfl, rfl⟩
  | overrun stage sole held due full => exact absurd full (timely.tickAfter_ne_none valid due)
  | act sole stepped working acted =>
    obtain ⟨events, trace, own⟩ := acted.own
    exact spaced.carry events trace (fun e he => Event.reading?_of_byController (own e he).2)
      (Nat.le_of_eq acted.now.symm) ⟨rfl, rfl⟩ id
  | elapse => exact spaced.carry [] rfl none (Nat.le_max_left _ _) ⟨rfl, rfl⟩ id
  | expire stage | replace stage =>
    exact spaced.carry [_] rfl (by simp [Event.reading?]) (Nat.le_refl _) ⟨rfl, rfl⟩
      fun _ => on stage
  | reconnect stage =>
    exact spaced.carry [_, _] rfl (by simp [Event.reading?]) (Nat.le_refl _) ⟨rfl, rfl⟩
      fun _ => on stage
  | renew stage | collapse stage =>
    exact spaced.carry [_, _] rfl (by simp [Event.reading?]) (Nat.le_refl _) ⟨rfl, rfl⟩
      fun _ => by rw [isOver, stage]
  | refuse stage =>
    exact spaced.carry [_, _, _] rfl (by simp [Event.reading?]) (Nat.le_refl _) ⟨rfl, rfl⟩
      fun _ => by rw [isOver, stage]
  | @conclude t outcome stopped rig stage sole unheld joined =>
    cases joined <;> cases outcome <;>
      exact spaced.carry [_, _] rfl (by simp [Event.reading?]) (Nat.le_refl _) ⟨rfl, rfl⟩
        fun _ => by rw [isOver, stage]

theorem Reachable.spaced (reach : Reachable setup s) (valid : setup.config.validate = .ok ())
    (timely : s.Timely setup) : s.Spaced setup :=
  reach.induct_timely (fun _ h _ => h.spaced)
    (fun _ _ _ _ timely ih h => h.spaced timely valid ih) timely

def Stage.hasFailedCheck (stage : Stage) : Bool := stage.failure?.any Failure.isCheck

/-- The loop is free, and has come to everything that was due so far. -/
structure InTime (setup : Setup) (s : Soak) : Prop where
  nextTick : s.nextTick = (s.samples + 1) * setup.intervalMs
  early : s.rig.now ≤ s.nextTick
  within : s.rig.now ≤ setup.deadlineMs

/-- A loop that only reconnects is never late, and comes to every sample before its deadline
unless a check fails. -/
def Punctual (setup : Setup) (s : Soak) : Prop :=
  match s.stage with
  | .selecting => s.InTime setup
  | .closing _ (.ok ()) => setup.deadlineMs ≤ (s.samples + 1) * setup.intervalMs
  | .closing _ (.error failure) => failure.isCheck = true
  | .over _ =>
    setup.deadlineMs ≤ (s.samples + 1) * setup.intervalMs ∨ s.stage.hasFailedCheck = true
  | _ => False

def Exact (setup : Setup) (s : Soak) : Prop :=
  probeTimes s.rig.trace = (List.range s.samples).map fun n => (n + 1) * setup.intervalMs

section reconnecting

/-- The clock has room for one interval after the deadline. -/
def Roomy (setup : Setup) : Prop := setup.deadlineMs + setup.intervalMs < setup.clock.endMs

theorem InTime.timely (inTime : s.InTime setup) (roomy : Roomy setup) : s.Timely setup :=
  Nat.lt_of_le_of_lt (Nat.add_le_add_right inTime.within _) roomy

theorem Opening.punctual (h : Opening setup s) (valid : setup.config.validate = .ok ())
    (built : setup.plan.refusal 1 = none) (roomy : Roomy setup) :
    s.Punctual setup ∧ s.Exact setup := by
  cases h with
  | invalid rejected => rw [valid] at rejected; cases rejected
  | refused _ refusal => rw [built] at refusal; cases refusal
  | panicked _ _ beyond =>
    exact absurd (Nat.lt_of_le_of_lt (Nat.le_add_left _ _) roomy) (Nat.not_lt_of_le beyond)
  | selecting => exact ⟨.mk (Nat.one_mul _).symm (Nat.zero_le _) (Nat.zero_le _), rfl⟩

theorem Exact.carry (exact : s.Exact setup) (events : History)
    (trace : next.rig.trace = events ++ s.rig.trace)
    (aside : ∀ e ∈ events, e.event.reading? = none) (samples : next.samples = s.samples) :
    next.Exact setup := by
  unfold Exact at exact ⊢
  rw [trace, probeTimes_aside aside, samples, exact]

theorem Exact.probe (exact : s.Exact setup) (now : s.rig.now = (s.samples + 1) * setup.intervalMs)
    (events : History) (trace : next.rig.trace = events ++ (s.probed setup).rig.trace)
    (aside : ∀ e ∈ events, e.event.reading? = none) (samples : next.samples = s.samples + 1) :
    next.Exact setup := by
  have taken : probeTimes next.rig.trace = probeTimes s.rig.trace ++ [s.rig.now] := by
    rw [trace, probeTimes_aside aside]
    exact probeTimes_read _ _ _
  unfold Exact at exact ⊢
  rw [taken, exact, samples, List.range_succ, List.map_append, now]
  rfl

theorem Punctual.inTime (punctual : s.Punctual setup) (stage : s.stage = .selecting) :
    s.InTime setup := by
  simpa only [Punctual, stage] using punctual

theorem InTime.punctual (inTime : s.InTime setup) (stage : s.stage = .selecting) :
    s.Punctual setup := by
  simpa only [Punctual, stage] using inTime

theorem Punctual.carry (punctual : s.Punctual setup) (stage : next.stage = s.stage)
    (samples : next.samples = s.samples)
    (inTime : s.stage = .selecting → s.InTime setup → next.InTime setup) :
    next.Punctual setup := by
  unfold Punctual at punctual ⊢
  rw [stage, samples]
  split at punctual
  · exact inTime ‹_› punctual
  all_goals exact punctual

theorem InTime.tick (inTime : s.InTime setup) (due : s.nextTick ≤ s.rig.now) :
    s.rig.now = (s.samples + 1) * setup.intervalMs :=
  (Nat.le_antisymm inTime.early due).trans inTime.nextTick

theorem InTime.advance (inTime : s.InTime setup) (roomy : Roomy setup)
    (valid : setup.config.validate = .ok ()) (due : s.nextTick ≤ s.rig.now)
    (now : next.rig.now = s.rig.now) (samples : next.samples = s.samples + 1)
    (nextTick : next.nextTick = (s.probed setup).nextTick) : next.InTime setup := by
  have exact_due : s.nextTick = s.rig.now := Nat.le_antisymm due inTime.early
  have set : next.nextTick = (next.samples + 1) * setup.intervalMs := by
    obtain ⟨base, set, lower, upper, -⟩ := (inTime.timely roomy).exists_probed valid due
    have same : base = s.nextTick := Nat.le_antisymm (exact_due ▸ upper) lower
    rw [nextTick, samples, Nat.succ_mul (s.samples + 1), ← inTime.nextTick, set, same]
  refine ⟨set, ?_, now ▸ inTime.within⟩
  rw [set, now, samples, inTime.tick due]
  exact Nat.mul_le_mul_right _ (Nat.le_succ _)

theorem InTime.elapse (inTime : s.InTime setup) (deadline : s.deadline = setup.deadlineMs)
    (stage : s.stage = .selecting) {due : Nat} (least : s.dues.min? = some due) :
    InTime setup { s with rig.now := max s.rig.now due } := by
  have first := (List.min?_eq_some_iff.mp least).2
  have selecting : s.isSelecting = true := s.isSelecting_iff.mpr stage
  have tick : due ≤ s.nextTick := first _ (by simp [dues, selecting])
  have within : due ≤ s.deadline := first _ (by simp [dues, selecting])
  exact ⟨inTime.nextTick, Nat.max_le.mpr ⟨inTime.early, tick⟩,
    Nat.max_le.mpr ⟨inTime.within, deadline ▸ within⟩⟩

theorem never_restarts (reach : Reachable setup s) (only : setup.config.mode = .reconnectTunnel) :
    s.rig.dispatcher.restart = false := by
  obtain ⟨⟨balanced, -⟩, -, tallied⟩ := reach.accounts
  exact (balanced.unmade .restart (by rw [tallied.mode, only]; rfl)).2.2

theorem Transition.punctual (h : Transition setup s move next) (reach : Reachable setup s)
    (valid : setup.config.validate = .ok ()) (roomy : Roomy setup)
    (only : setup.config.mode = .reconnectTunnel) (punctual : s.Punctual setup)
    (exact : s.Exact setup) : next.Punctual setup ∧ next.Exact setup := by
  have none : ∀ e ∈ ([] : History), e.event.reading? = none := nofun
  have clocked := reach.clocked.1
  cases h with
  | expire stage sole held due =>
    have inTime := punctual.inTime stage
    simp only [Clocked, stage] at clocked
    refine ⟨?_, exact.carry [_] rfl (by simp [Event.reading?]) rfl⟩
    calc setup.deadlineMs
      _ ≤ s.rig.now := clocked ▸ due
      _ ≤ s.nextTick := inTime.early
      _ = (s.samples + 1) * setup.intervalMs := inTime.nextTick
  | exceed stage sole held due =>
    have now := (punctual.inTime stage).tick due
    exact ⟨rfl, exact.probe now [] rfl none rfl⟩
  | stall stage sole held due =>
    have now := (punctual.inTime stage).tick due
    exact ⟨rfl, exact.probe now [_] rfl (by simp [Event.reading?]) rfl⟩
  | advance stage sole held due =>
    have inTime := punctual.inTime stage
    have ahead : (s.advanced setup).InTime setup := inTime.advance roomy valid due rfl rfl rfl
    exact ⟨ahead.punctual stage,
      exact.probe (inTime.tick due) [_, _] rfl (by simp [Event.reading?]) rfl⟩
  | overrun stage sole held due full =>
    have timely := (punctual.inTime stage).timely roomy
    exact absurd full (timely.tickAfter_ne_none valid due)
  | reconnect stage =>
    refine ⟨punctual.carry rfl rfl fun _ inTime => ?_,
      exact.carry [_, _] rfl (by simp [Event.reading?]) rfl⟩
    exact ⟨inTime.nextTick, inTime.early, inTime.within⟩
  | replace stage sole held full =>
    rw [never_restarts reach only] at full
    cases full
  | renew stage | refuse stage | collapse stage => simp only [Punctual, stage] at punctual
  | @conclude t outcome stopped rig stage sole unheld joined =>
    simp only [Punctual, stage] at punctual
    cases outcome with
    | ok =>
      cases joined <;>
        exact ⟨.inl punctual, exact.carry [_, _] rfl (by simp [Event.reading?]) rfl⟩
    | error =>
      cases joined <;>
        exact ⟨.inr punctual, exact.carry [_, _] rfl (by simp [Event.reading?]) rfl⟩
  | act sole stepped working acted =>
    obtain ⟨events, trace, own⟩ := acted.own
    refine ⟨?_, exact.carry events trace
      (fun e he => Event.reading?_of_byController (own e he).2) rfl⟩
    refine punctual.carry rfl rfl fun _ inTime => ?_
    exact ⟨inTime.nextTick, acted.now ▸ inTime.early, acted.now ▸ inTime.within⟩
  | elapse idle least =>
    refine ⟨punctual.carry rfl rfl fun stage inTime => ?_, exact.carry [] rfl none rfl⟩
    simp only [Clocked, stage] at clocked
    exact inTime.elapse clocked stage least

theorem Reachable.punctual (reach : Reachable setup s) (valid : setup.config.validate = .ok ())
    (built : setup.plan.refusal 1 = none) (roomy : Roomy setup)
    (only : setup.config.mode = .reconnectTunnel) : s.Punctual setup ∧ s.Exact setup :=
  reach.induct (fun _ h => h.punctual valid built roomy) fun _ _ _ reach ih h =>
    h.punctual reach valid roomy only ih.1 ih.2

theorem Opening.unstarted (h : Opening setup s) (valid : setup.config.validate = .ok ())
    {failure : Failure} (refusal : setup.plan.refusal 1 = some failure) :
    s.stage = .over (.error failure) ∧ s.Exact setup := by
  cases h with
  | invalid rejected =>
    rw [valid] at rejected
    cases rejected
  | refused _ given =>
    cases refusal.symm.trans given
    exact ⟨rfl, rfl⟩
  | panicked _ built | selecting _ built =>
    rw [refusal] at built
    cases built

theorem Reachable.unstarted (reach : Reachable setup s) (valid : setup.config.validate = .ok ())
    {failure : Failure} (refusal : setup.plan.refusal 1 = some failure) :
    s.stage = .over (.error failure) ∧ s.Exact setup :=
  reach.induct (fun _ h => h.unstarted valid refusal) fun _ _ _ reach ih h =>
    absurd ih.1 (h.not_over reach.supervised _)

theorem Reachable.exact (reach : Reachable setup s) (valid : setup.config.validate = .ok ())
    (roomy : Roomy setup) (only : setup.config.mode = .reconnectTunnel) : s.Exact setup := by
  cases built : setup.plan.refusal 1 with
  | none => exact (reach.punctual valid built roomy only).2
  | some failure => exact (reach.unstarted valid built).2

end reconnecting

/-- A run move by move, for ever or until no move is open. -/
structure Execution (setup : Setup) (path : Nat → Soak) : Prop where
  begins : path 0 = begin setup
  moves : ∀ k, (∃ move, (path k).step setup move = some (path (k + 1))) ∨
    ((∀ move, (path k).step setup move = none) ∧ path (k + 1) = path k)

/-- No moves follow each other for ever at one time. -/
def Lively (setup : Setup) (path : Nat → Soak) : Prop :=
  ∀ k, ∃ j, k ≤ j ∧
    ((path k).rig.now < (path j).rig.now ∨ ∀ move, (path j).step setup move = none)

/-- The run comes to all of its samples before a time, or to one that fails. -/
def Sampled (setup : Setup) (path : Nat → Soak) (time : Nat) : Prop :=
  ∃ k, ∀ n, (n + 1) * setup.intervalMs < time →
    (probeTimes (path k).rig.trace)[n]? = some ((n + 1) * setup.intervalMs) ∨
      ((path k).samples ≤ n ∧ (path k).stage.hasFailedCheck = true)

theorem exists_step_of_selecting (reach : Reachable setup s) (stage : s.stage = .selecting) :
    ∃ move next, s.step setup move = some next := by
  cases proceeded : s.proceed setup .loop with
  | some result =>
    obtain ⟨move, stepped⟩ := proceed_step proceeded
    exact ⟨move, _, stepped⟩
  | none =>
    obtain ⟨-, nothing⟩ := idle_of_stuck proceeded reach.supervised
    simp [dues, s.isSelecting_iff.mpr stage] at nothing

section Execution
variable {path : Nat → Soak} (execution : Execution setup path)
include execution

theorem Execution.reachable (k : Nat) : Reachable setup (path k) := by
  induction k with
  | zero => exact execution.begins ▸ .begin
  | succ k ih =>
    rcases execution.moves k with ⟨move, stepped⟩ | ⟨-, same⟩
    · exact ih.step move stepped
    · exact same ▸ ih

theorem Execution.leaves (lively : Lively setup path)
    (punctual : ∀ s, Reachable setup s → s.Punctual setup) : ∃ k, (path k).stage ≠ .selecting := by
  apply Classical.byContradiction
  intro never
  have selecting (k : Nat) : (path k).stage = .selecting :=
    Classical.not_not.mp fun left => never ⟨k, left⟩
  have later (m : Nat) : ∃ k, m ≤ (path k).rig.now := by
    induction m with
    | zero => exact ⟨0, Nat.zero_le _⟩
    | succ m ih =>
      obtain ⟨k, reached⟩ := ih
      obtain ⟨j, -, passed | stuck⟩ := lively k
      · exact ⟨j, Nat.succ_le_of_lt (Nat.lt_of_le_of_lt reached passed)⟩
      · obtain ⟨move, next, stepped⟩ :=
          exists_step_of_selecting (execution.reachable j) (selecting j)
        rw [stuck move] at stepped
        cases stepped
  obtain ⟨k, beyond⟩ := later (setup.deadlineMs + 1)
  have within := ((punctual _ (execution.reachable k)).inTime (selecting k)).within
  exact Nat.not_succ_le_self _ (Nat.le_trans beyond within)

end Execution

/-- A loop that was left has come to all samples before its deadline, or to one that failed. -/
theorem Punctual.all_samples (punctual : s.Punctual setup) (left : s.stage ≠ .selecting) :
    setup.deadlineMs ≤ (s.samples + 1) * setup.intervalMs ∨ s.stage.hasFailedCheck = true := by
  unfold Punctual at punctual
  split at punctual
  · exact absurd ‹_› left
  · exact .inl punctual
  · rename_i stage
    rw [stage]
    exact .inr punctual
  · exact punctual
  · exact punctual.elim

structure Timetable (setup : Setup) (s : Soak) : Prop where
  /-- No sample is early, counted from the start of the loop. -/
  floor : ∀ n time, (probeTimes s.rig.trace)[n]? = some time → (n + 1) * setup.intervalMs ≤ time
  /-- A late sample does not make the one after it come soon. -/
  apart : ∀ n time later, (probeTimes s.rig.trace)[n]? = some time →
    (probeTimes s.rig.trace)[n + 1]? = some later → time + setup.intervalMs ≤ later + tickSlackMs
  /-- Nor is a sample left out: a loop that has nothing to do has taken its last one less than
  an interval ago. -/
  prompt : s.stage = .selecting → s.isIdle setup = true →
    s.rig.now < lastProbe s.rig.trace + setup.intervalMs
  elapsed : ∀ report, s.stage = .over (.ok report) →
    report.samples * setup.intervalMs ≤ report.elapsedMs

theorem Reachable.timetable (reach : Reachable setup s) (valid : setup.config.validate = .ok ())
    (timely : s.Timely setup) : s.Timetable setup := by
  obtain ⟨count, past, floor, apart, due⟩ := reach.spaced valid timely
  refine ⟨floor, apart, fun stage idle => ?_, fun report passed => ?_⟩
  · have waits := (isIdle_iff.mp idle).1 .tick (by simp [loopServices])
    have early : s.rig.now < s.nextTick := by
      apply Nat.lt_of_not_le
      intro late
      rw [s.isReady_tick.mpr ⟨stage, late⟩] at waits
      cases waits
    exact Nat.lt_of_lt_of_le early (due (by rw [isOver, stage])).2.1
  · have clocked := reach.clocked.1
    simp only [Clocked, passed] at clocked
    obtain ⟨rfl, -⟩ := clocked
    change s.samples * setup.intervalMs ≤ s.rig.now
    cases samples : s.samples with
    | zero => exact Nat.le_trans (Nat.le_of_eq (Nat.zero_mul _)) (Nat.zero_le _)
    | succ n =>
      have last : n < (probeTimes s.rig.trace).length := by
        rw [count, samples]
        exact Nat.lt_succ_self n
      exact Nat.le_trans (floor n _ (List.getElem?_eq_getElem last))
        (past _ (List.getElem_mem last))

/-- Samples keep their distance whatever blocks the loop, as long as the clock has room. Where only
tunnels are terminated and time goes on, each sample before the deadline is taken at its time
until one fails; the deadline is the duration unless the clock does not show it. -/
theorem samples_keep_time (valid : setup.config.validate = .ok ()) :
    (∀ s, Reachable setup s → s.Timely setup → s.Timetable setup) ∧
      (setup.config.mode = .reconnectTunnel → Roomy setup →
        (∀ s, Reachable setup s → s.Exact setup) ∧
          (setup.plan.refusal 1 = none → ∀ path, Execution setup path → Lively setup path →
            Sampled setup path setup.deadlineMs)) ∧
      (setup.durationMs < setup.clock.endMs → setup.deadlineMs = setup.durationMs) := by
  refine ⟨fun s reach => reach.timetable valid, fun only roomy => ⟨fun s reach => ?_, ?_⟩,
    deadlineMs_of_timely⟩
  · exact reach.exact valid roomy only
  intro built path execution lively
  have punctual (s : Soak) (reach : Reachable setup s) : s.Punctual setup :=
    (reach.punctual valid built roomy only).1
  obtain ⟨k, left⟩ := execution.leaves lively punctual
  have reach := execution.reachable k
  have exact := reach.exact valid roomy only
  refine ⟨k, fun n early => ?_⟩
  by_cases taken : n < (path k).samples
  · left
    rw [exact, List.getElem?_map, List.getElem?_range taken]
    rfl
  · have missing := Nat.le_of_not_lt taken
    refine .inr ⟨missing, ((punctual _ reach).all_samples left).resolve_left fun all => ?_⟩
    have beyond : (path k).samples + 1 ≤ n + 1 := Nat.succ_le_succ missing
    have later := Nat.mul_le_mul_right setup.intervalMs beyond
    exact Nat.lt_irrefl _ (Nat.lt_of_lt_of_le early (Nat.le_trans all later))

def following (setup : Setup) (s : Soak) : List Move → Nat → Soak
  | [], _ => s
  | _ :: _, 0 => s
  | move :: moves, k + 1 =>
    match s.step setup move with
    | some next => following setup next moves k
    | none => s

section following
variable {moves : List Move} (made : replay setup s moves = some next)
include made

theorem following_end (k : Nat) : following setup s moves (moves.length + k) = next := by
  induction moves generalizing s with
  | nil =>
    cases made
    rfl
  | cons move moves ih =>
    obtain ⟨mid, stepped, rest⟩ := Option.bind_eq_some_iff.mp made
    rw [List.length_cons, Nat.add_right_comm, following, stepped]
    exact ih rest

theorem following_moves (ended : ∀ move, next.step setup move = none) (k : Nat) :
    (∃ move, (following setup s moves k).step setup move =
        some (following setup s moves (k + 1))) ∨
      ((∀ move, (following setup s moves k).step setup move = none) ∧
        following setup s moves (k + 1) = following setup s moves k) := by
  induction moves generalizing s k with
  | nil =>
    cases made
    exact .inr ⟨ended, rfl⟩
  | cons move moves ih =>
    obtain ⟨mid, stepped, rest⟩ := Option.bind_eq_some_iff.mp made
    have after (k : Nat) : following setup s (move :: moves) (k + 1) =
        following setup mid moves k := by
      rw [following, stepped]
    cases k with
    | zero =>
      refine .inl ⟨move, ?_⟩
      rw [after]
      cases moves <;> exact stepped
    | succ k =>
      rw [after, after]
      exact ih rest k

end following

theorem execution_of_replay {moves : List Move}
    (made : replay setup (begin setup) moves = some next) {result : Except Failure Report}
    (ended : next.stage = .over result) :
    Execution setup (following setup (begin setup) moves) ∧
      Lively setup (following setup (begin setup) moves) := by
  have reach : Reachable setup next := Reachable.begin.replay made
  have stuck (move : Move) : next.step setup move = none := by
    cases stepped : next.step setup move with
    | none => rfl
    | some later =>
      have moved := transition_of_step reach.supervised stepped
      exact absurd ended (moved.not_over reach.supervised result)
  refine ⟨⟨?_, following_moves made stuck⟩, fun k => ⟨moves.length + k, Nat.le_add_left _ _, ?_⟩⟩
  · cases moves <;> rfl
  · rw [following_end made]
    exact .inr stuck

def steady : Setup where
  config := { durationSecs := 5, sampleIntervalSecs := 2, settleDelayMs := 0 }
  plan :=
    { refusal _ := none
      script _ :=
        { run := [.emit (Simulation.tunnelsNotice 1), .sleep 3000,
            .emit (Simulation.tunnelsNotice 1)] } }
  coin _ := false
  readings _ := ⟨7, 9⟩

theorem steady_run_keeps_time : ∃ path,
    Execution steady path ∧ Lively steady path ∧ Sampled steady path 5000 ∧
      (∀ k, (path k).Timetable steady) ∧ ∃ k, probeTimes (path k).rig.trace = [2000, 4000] := by
  let moves : List Move :=
    [.act 1 true, .act 1 true, .act 1 true, .reconnect, .elapse, .tick, .elapse, .act 1 true,
      .act 1 true, .act 1 true, .reconnect, .elapse, .tick, .elapse, .deadline, .act 1 true,
      .act 1 true, .join]
  obtain ⟨s, made, ended, times, now⟩ : ∃ s, replay steady (begin steady) moves = some s ∧
      s.stage = .over (.ok ⟨.reconnectTunnel, 2, 2, 0, 2, 7, 9, 5000⟩) ∧
      probeTimes s.rig.trace = [2000, 4000] ∧ s.rig.now = 5000 := ⟨_, rfl, rfl, rfl, rfl⟩
  obtain ⟨execution, lively⟩ := execution_of_replay made ended
  obtain ⟨timetable, inTime, -⟩ := @samples_keep_time steady rfl
  have timely (k : Nat) : (following steady (begin steady) moves k).Timely steady := by
    rcases Nat.lt_or_ge k moves.length with early | late
    · revert k
      unfold Timely
      decide
    · obtain ⟨more, rfl⟩ := Nat.exists_eq_add_of_le late
      rw [following_end made, Timely, now]
      decide
  refine ⟨_, execution, lively, (inTime rfl (by unfold Roomy; decide)).2 rfl _ execution lively,
    fun k => timetable _ (execution.reachable k) (timely k), moves.length + 0, ?_⟩
  rw [following_end made]
  exact times

/-- A run of as many seconds as 64 bits allow, with a sample every thirty-two years. -/
def ageless : Setup where
  config := { durationSecs := Nat.pow 2 64 - 1, sampleIntervalSecs := 1000000000 }
  plan := { refusal _ := none, script _ := {} }
  coin _ := false
  readings _ := ⟨0, 0⟩

/-- Such a run ends long before its duration is over, and passes without a sample. -/
theorem ageless_run_is_not_sampled :
    ageless.config.validate = .ok () ∧ ageless.intervalMs < ageless.clock.endMs ∧
      ageless.config.mode = .reconnectTunnel ∧
      ∃ path, Execution ageless path ∧ Lively ageless path ∧
        ¬ Sampled ageless path ageless.durationMs := by
  let moves : List Move :=
    [.act 1 true, .act 1 true, .elapse, .deadline, .act 1 true, .act 1 true, .join]
  obtain ⟨s, made, ended, none⟩ : ∃ s, replay ageless (begin ageless) moves = some s ∧
      s.stage = .over (.ok ⟨.reconnectTunnel, 0, 0, 0, 0, 0, 0, 946080000000⟩) ∧
      probeTimes s.rig.trace = [] := ⟨_, rfl, rfl, rfl⟩
  obtain ⟨execution, lively⟩ := execution_of_replay made ended
  refine ⟨rfl, by decide, rfl, _, execution, lively, ?_⟩
  have unsampled (k : Nat) : probeTimes (following ageless (begin ageless) moves k).rig.trace = [] ∧
      (following ageless (begin ageless) moves k).stage.hasFailedCheck = false := by
    rcases Nat.lt_or_ge k moves.length with early | late
    · revert k
      decide
    · obtain ⟨more, rfl⟩ := Nat.exists_eq_add_of_le late
      rw [following_end made, ended]
      exact ⟨none, rfl⟩
  rintro ⟨k, sampled⟩
  obtain ⟨none, passed⟩ := unsampled k
  rcases sampled 0 (by decide) with probe | ⟨-, failed⟩
  · rw [none] at probe
    cases probe
  · rw [passed] at failed
    cases failed

end Soak

end TunnelSoak
