import TunnelSoak.Proofs.Rig.Effort
import TunnelSoak.Proofs.Simulation.Retirement
import TunnelSoak.Proofs.Soak.Run

/-! A run comes to its end. Time is the first thing of which it has only so much: up to the
deadline each stretch between two times uses some up, and after it the loop does nothing but
stop. At one time requests are carried out until no more are posted, samples are taken once,
and a controller acts until it rests. -/
namespace TunnelSoak

open Controller (Task)

namespace Soak

/-- Whatever the factory builds is unhurried. -/
def Unhurried (setup : Setup) : Prop :=
  ∀ index, (setup.plan.script index).Unhurried setup.config.settleDelayMs

/-- The controllers are unhurried, and cancelled where the loop waits for them. -/
structure Orderly (setup : Setup) (s : Soak) : Prop where
  settleMs : s.rig.dispatcher.settleMs = setup.config.settleDelayMs
  tasks : ∀ t ∈ s.rig.tasks, t.Orderly setup.config.settleDelayMs
  stopping : s.isOver = false → s.stage ≠ .selecting → ∀ t ∈ s.rig.tasks, t.cancelled = true

def amount (measure : Task → Nat) : List Task → Nat
  | [] => 0
  | t :: tasks => measure t + amount measure tasks

@[simp] theorem amount_singleton (measure : Task → Nat) (t : Task) :
    amount measure [t] = measure t := rfl

section measure
variable (setup : Setup) (s : Soak)

def timeLeft : Nat := s.deadline - s.rig.now

/-- The requests at this time, those to come included. Once the deadline is due the loop takes
none. -/
def demand : Nat :=
  if s.deadline ≤ s.rig.now then 0
  else s.rig.dispatcher.requests +
    amount (Task.posts setup.config.settleDelayMs s.rig.now) s.rig.tasks

/-- What the loop has to do at this time, besides requests. -/
def phase : Nat :=
  match s.stage with
  | .restarting _ => 4
  | .selecting => if s.nextTick ≤ s.rig.now then 3 else 2
  | .closing _ _ => 1
  | _ => 0

def labour : Nat := amount (Task.labour setup.config.settleDelayMs s.rig.now) s.rig.tasks

end measure

/-- A run is closer to its end than another, in order of weight: it has less time, fewer
requests, less for the loop to do or less for the controller. -/
inductive Closer (setup : Setup) (next s : Soak) : Prop
  | time (less : next.timeLeft < s.timeLeft)
  | demand (time : next.timeLeft ≤ s.timeLeft) (less : next.demand setup < s.demand setup)
  | phase (time : next.timeLeft ≤ s.timeLeft) (demand : next.demand setup ≤ s.demand setup)
    (less : next.phase < s.phase)
  | labour (time : next.timeLeft ≤ s.timeLeft) (demand : next.demand setup ≤ s.demand setup)
    (phase : next.phase ≤ s.phase) (less : next.labour setup < s.labour setup)

variable {setup : Setup} {s next : Soak} {move : Move}

theorem lex_of_le {β : Type} {r : β → β → Prop} {a a' : Nat} {b b' : β} (le : a ≤ a')
    (less : r b b') : Prod.Lex (· < ·) r (a, b) (a', b') := by
  rcases Nat.lt_or_eq_of_le le with lt | rfl
  · exact .left _ _ lt
  · exact .right _ less

theorem Closer.wf (setup : Setup) : WellFounded (Closer setup) := by
  have order := (Prod.lex Nat.lt_wfRel (Prod.lex Nat.lt_wfRel
    (Prod.lex Nat.lt_wfRel Nat.lt_wfRel))).wf
  refine Subrelation.wf (fun closer => ?_) (InvImage.wf
    (fun s : Soak => (s.timeLeft, s.demand setup, s.phase, s.labour setup)) order)
  cases closer with
  | time less => exact .left _ _ less
  | demand time less => exact lex_of_le time (.left _ _ less)
  | phase time demand less => exact lex_of_le time (lex_of_le demand (.left _ _ less))
  | labour time demand phase less => exact lex_of_le time (lex_of_le demand (lex_of_le phase less))

theorem lt_tickAfter (valid : setup.config.validate = .ok ()) {tick : Nat}
    (found : s.tickAfter? setup = some tick) : s.rig.now < tick := by
  have slack := slack_lt_interval valid
  have far := setup.clock.far_pos
  obtain ⟨lateFrom, noticed, found⟩ := Option.bind_eq_some_iff.mp found
  obtain ⟨-, rfl⟩ := Clock.add?_eq_some_iff.mp noticed
  split at found
  · rename_i prompt
    rcases Option.or_eq_some_iff.mp found with next | ⟨-, away⟩
    · obtain ⟨-, rfl⟩ := Clock.add?_eq_some_iff.mp next
      omega
    · obtain ⟨-, rfl⟩ := Clock.add?_eq_some_iff.mp away
      exact Nat.lt_add_of_pos_right far
  · obtain ⟨-, rfl⟩ := Clock.add?_eq_some_iff.mp found
    exact Nat.lt_add_of_pos_right (interval_pos valid)

theorem Opening.orderly (unhurried : Unhurried setup) (h : Opening setup s) : s.Orderly setup := by
  cases h with
  | invalid | refused => exact ⟨rfl, nofun, nofun⟩
  | panicked => exact ⟨rfl, List.forall_mem_singleton.mpr ⟨unhurried _, nofun⟩, nofun⟩
  | selecting =>
    exact ⟨rfl, List.forall_mem_singleton.mpr ⟨unhurried _, nofun⟩, fun _ other => absurd rfl other⟩

theorem Transition.orderly (unhurried : Unhurried setup) (h : Transition setup s move next)
    (orderly : s.Orderly setup) : next.Orderly setup := by
  have only {t : Task} (sole : s.rig.tasks = [t]) : t.Orderly setup.config.settleDelayMs :=
    orderly.tasks t (sole ▸ List.mem_singleton_self t)
  cases h with
  | expire stage sole | exceed stage sole | stall stage sole =>
    exact ⟨orderly.settleMs, List.forall_mem_singleton.mpr (only sole).cancel,
      fun _ _ => List.forall_mem_singleton.mpr rfl⟩
  | replace stage sole =>
    exact ⟨orderly.settleMs, List.forall_mem_singleton.mpr (only sole).cancel,
      fun _ _ => List.forall_mem_singleton.mpr rfl⟩
  | reconnect stage sole =>
    exact ⟨orderly.settleMs, List.forall_mem_singleton.mpr (only sole).terminate,
      fun _ other => absurd stage other⟩
  | advance stage => exact ⟨orderly.settleMs, orderly.tasks, fun _ other => absurd stage other⟩
  | overrun => exact ⟨orderly.settleMs, orderly.tasks, nofun⟩
  | renew =>
    exact ⟨orderly.settleMs, List.forall_mem_singleton.mpr ⟨unhurried _, nofun⟩,
      fun _ other => absurd rfl other⟩
  | refuse | collapse => exact ⟨orderly.settleMs, nofun, nofun⟩
  | @conclude t outcome stopped rig stage sole unheld joined =>
    obtain ⟨event, -, recorded⟩ := conclude_rig { s with rig } outcome stopped
    obtain ⟨result, ended⟩ := conclude_stage { s with rig } outcome stopped
    refine ⟨?_, ?_, fun going => ?_⟩
    · rw [recorded]
      cases joined <;> exact orderly.settleMs
    · rw [recorded]
      cases joined <;> exact List.forall_mem_nil _
    · simp [isOver, ended] at going
  | @act t after rig heed sole stepped working acted =>
    obtain ⟨mid, e, ran, worked⟩ := Rig.worked _ sole stepped
    obtain ⟨results, later, handled, tasks, -⟩ := worked.handled
    obtain rfl : later = after := List.singleton_inj.mp (tasks.symm.trans acted.tasks)
    refine ⟨handled.settleMs.trans orderly.settleMs, ?_, fun going other => ?_⟩
    · change ∀ t ∈ rig.tasks, _
      rw [tasks]
      exact List.forall_mem_singleton.mpr ((only sole).step ran handled)
    · have told := orderly.stopping going other t (sole ▸ List.mem_singleton_self t)
      change ∀ t ∈ rig.tasks, _
      rw [tasks]
      exact List.forall_mem_singleton.mpr (acted.kept.cancelled.trans told)
  | elapse => exact ⟨orderly.settleMs, orderly.tasks, orderly.stopping⟩

theorem Reachable.orderly (unhurried : Unhurried setup) (reach : Reachable setup s) :
    s.Orderly setup :=
  reach.induct (fun _ h => h.orderly unhurried) fun _ _ _ _ ih h => h.orderly unhurried ih

theorem lt_of_idle (idle : s.isIdle setup = true) {due : Nat} (mem : due ∈ s.dues) :
    s.rig.now < due := by
  obtain ⟨unready, -, still⟩ := isIdle_iff.mp idle
  rcases List.mem_append.mp mem with mem | mem
  · have deadline := unready .deadline (by decide)
    have tick := unready .tick (by decide)
    split at mem
    · rename_i selecting
      simp only [isReady, selecting, Bool.true_and, decide_eq_false_iff_not, Nat.not_le]
        at deadline tick
      rcases List.mem_cons.mp mem with rfl | mem
      · exact deadline
      · exact List.mem_singleton.mp mem ▸ tick
    · cases mem
  · obtain ⟨t, mem, waits⟩ := List.mem_filterMap.mp mem
    exact Task.lt_of_waiting (still t mem) waits

section demand
variable {t after : Task}

theorem demand_le (deadline : next.deadline = s.deadline) (now : next.rig.now = s.rig.now)
    (fewer : next.rig.dispatcher.requests +
        amount (Task.posts setup.config.settleDelayMs s.rig.now) next.rig.tasks ≤
      s.rig.dispatcher.requests +
        amount (Task.posts setup.config.settleDelayMs s.rig.now) s.rig.tasks) :
    next.demand setup ≤ s.demand setup := by
  unfold demand
  rw [deadline, now]
  split
  · exact Nat.le_refl 0
  · exact fewer

theorem demand_lt (early : s.rig.now < s.deadline) (deadline : next.deadline = s.deadline)
    (now : next.rig.now = s.rig.now)
    (fewer : next.rig.dispatcher.requests +
        amount (Task.posts setup.config.settleDelayMs s.rig.now) next.rig.tasks <
      s.rig.dispatcher.requests +
        amount (Task.posts setup.config.settleDelayMs s.rig.now) s.rig.tasks) :
    next.demand setup < s.demand setup := by
  unfold demand
  rw [deadline, now, if_neg (Nat.not_le_of_lt early), if_neg (Nat.not_le_of_lt early)]
  exact fewer

end demand

/-- The loop attends to its deadline before it takes a sample or a request. -/
def Prompt (s : Soak) : Move → Prop
  | .tick | .reconnect | .restart => s.rig.now < s.deadline
  | .act _ heed => heed = true
  | _ => True

section closer
variable {t after : Task} (orderly : s.Orderly setup)
include orderly

theorem Orderly.closer_of_act {rig : Rig} {heed : Bool} (sole : s.rig.tasks = [t])
    (stepped : s.rig.stepTask setup.coin t.id heed = some rig) (acted : s.rig.Acted rig t after)
    (prompt : s.Prompt (.act t.id heed)) : Closer setup { s with rig } s := by
  obtain rfl : heed = true := prompt
  obtain ⟨mid, e, ran, worked⟩ := Rig.worked _ sole stepped
  obtain ⟨results, later, handled, tasks, -⟩ := worked.handled
  have unhurried := orderly.tasks t (sole ▸ List.mem_singleton_self t)
  refine .labour (Nat.le_of_eq ?_) (demand_le rfl acted.now ?_) (Nat.le_of_eq ?_) ?_
  · simp only [timeLeft, acted.now]
  · simpa [tasks, sole] using unhurried.posts_le orderly.settleMs ran handled
  · simp only [phase, acted.now]
  · simpa [labour, tasks, sole, acted.now] using unhurried.labour_lt orderly.settleMs ran handled

/-- A loop that waits for its controller is kept waiting by a settle delay at most. -/
theorem Orderly.settling_of_idle (sup : s.Supervised) (going : s.isOver = false)
    (stopping : s.stage ≠ .selecting) (idle : s.isIdle setup = true) :
    ∃ t due established, s.rig.tasks = [t] ∧ t.stage = .settling due established ∧
      s.rig.now < due ∧ t.cancelled = true ∧ s.dues = [due] := by
  obtain ⟨t, sole, waits⟩ : ∃ t, s.rig.tasks = [t] ∧
      (s.stage = .restarting t.id ∨ ∃ outcome, s.stage = .closing t.id outcome) := by
    match stage : s.stage with
    | .selecting => exact absurd stage stopping
    | .restarting id =>
      obtain ⟨t, sole, -, rfl⟩ := sup.restarting stage
      exact ⟨t, sole, .inl rfl⟩
    | .closing id outcome =>
      obtain ⟨t, sole, -, rfl⟩ := sup.closing stage
      exact ⟨t, sole, .inr ⟨outcome, rfl⟩⟩
    | .over result | .panicked message => simp [isOver, stage] at going
  have mem : t ∈ s.rig.tasks := sole ▸ List.mem_singleton_self t
  have told := orderly.stopping going stopping t mem
  have working : t.isOver = false := Bool.eq_false_iff.mpr fun ended =>
    Bool.false_ne_true ((busy_of_over sole ended waits).symm.trans idle)
  obtain ⟨due, established, stage, later⟩ :=
    (orderly.tasks t mem).due_of_waiting told working ((isIdle_iff.mp idle).2.2 t mem)
  have selecting : s.isSelecting ≠ true := fun selecting =>
    stopping ((s.isSelecting_iff).mp selecting)
  refine ⟨t, due, established, sole, stage, later, told, ?_⟩
  simp [dues, selecting, sole, Task.due?, stage]

theorem Orderly.closer_of_elapse (sup : s.Supervised) (going : s.isOver = false)
    (idle : s.isIdle setup = true) {due : Nat} (least : s.dues.min? = some due) :
    Closer setup { s with rig.now := max s.rig.now due } s := by
  have later := lt_of_idle idle (List.min?_eq_some_iff.mp least).1
  rw [Nat.max_eq_right (Nat.le_of_lt later)]
  rcases Nat.lt_or_ge s.rig.now s.deadline with early | late
  · refine .time ?_
    simp only [timeLeft]
    omega
  -- past the deadline no time is left to lose, but then the loop waits for its controller
  have stopping : s.stage ≠ .selecting := fun stage => by
    have unready := (isIdle_iff.mp idle).1 .deadline (by decide)
    rw [(s.isReady_deadline).mpr ⟨stage, late⟩] at unready
    cases unready
  obtain ⟨t, other, established, sole, stage, -, told, listed⟩ :=
    orderly.settling_of_idle sup going stopping idle
  rw [listed, List.min?_singleton] at least
  obtain rfl : other = due := Option.some.inj least
  refine .labour ?_ ?_ ?_ ?_
  · simp only [timeLeft]
    omega
  · simp only [demand, if_pos (Nat.le_trans late (Nat.le_of_lt later))]
    exact Nat.zero_le _
  · unfold phase
    cases stage : s.stage with
    | selecting => exact absurd stage stopping
    | _ => exact Nat.le_refl _
  · simpa [labour, sole, Task.labour, told] using
      Task.retreat_lt_of_settled stage later (Nat.le_refl _)

theorem Orderly.proceeds (sup : s.Supervised) (going : s.isOver = false) (turn : Turn) :
    ∃ after next, s.proceed setup turn = some (after, next) := by
  cases proceeded : s.proceed setup turn with
  | some result => exact ⟨_, _, rfl⟩
  | none =>
    obtain ⟨idle, nothing⟩ := idle_of_stuck proceeded sup
    by_cases stage : s.stage = .selecting
    · simp [dues, (s.isSelecting_iff).mpr stage] at nothing
    · obtain ⟨t, due, established, -, -, -, -, listed⟩ :=
        orderly.settling_of_idle sup going stage idle
      simp [listed] at nothing

end closer

theorem Transition.closer (h : Transition setup s move next) (orderly : s.Orderly setup)
    (sup : s.Supervised) (unhurried : Unhurried setup) (valid : setup.config.validate = .ok ())
    (prompt : s.Prompt move) (going : s.isOver = false) :
    next.isOver = true ∨ Closer setup next s := by
  cases h with
  | expire stage sole | exceed stage sole | stall stage sole =>
    refine .inr (.phase (Nat.le_refl _) (demand_le rfl rfl ?_) ?_)
    · rw [sole]
      exact Nat.le_refl _
    · simp only [phase, stage]
      split <;> decide
  | advance stage sole held due room =>
    refine .inr (.phase (Nat.le_refl _) (demand_le rfl rfl (Nat.le_refl _)) ?_)
    obtain ⟨tick, found⟩ := Option.ne_none_iff_exists'.mp room
    have ahead : ¬ (s.probed setup).nextTick ≤ s.rig.now := by
      simp only [probed, measure, record, found, Option.getD_some, Nat.not_le]
      exact lt_tickAfter valid found
    have same : (s.probed setup).stage = .selecting := stage
    simp only [phase, same, stage, if_pos due]
    change (if (s.probed setup).nextTick ≤ s.rig.now then 3 else 2) < 3
    rw [if_neg ahead]
    decide
  | overrun => exact .inl rfl
  | reconnect stage sole held full =>
    have fewer : (s.rig.dispatcher.take .reconnect).2.requests + 1 = s.rig.dispatcher.requests :=
      Dispatcher.requests_take full
    refine .inr (.demand (Nat.le_refl _) (demand_lt prompt rfl rfl ?_))
    simp only [sole, Rig.prodded, Rig.taken, Rig.record, amount_singleton, Task.posts_terminate]
    omega
  | replace stage sole held full =>
    have fewer : (s.rig.dispatcher.take .restart).2.requests + 1 = s.rig.dispatcher.requests :=
      Dispatcher.requests_take full
    refine .inr (.demand (Nat.le_refl _) (demand_lt prompt rfl rfl ?_))
    simp only [sole, Rig.released, Rig.taken, Rig.record, amount_singleton, Task.posts_cancel]
    omega
  | renew stage sole =>
    refine .inr (.phase (Nat.le_refl _) (demand_le rfl rfl ?_) ?_)
    · have late := (unhurried s.rig.counters.constructed).late
      simp [Rig.staffed, Rig.vacated, Rig.recruit, Rig.record, Task.posts, late]
    · simp only [phase, stage]
      split <;> decide
  | refuse | collapse => exact .inl rfl
  | @conclude t outcome stopped rig stage sole unheld joined =>
    obtain ⟨result, ended⟩ := conclude_stage { s with rig } outcome stopped
    exact .inl (by simp [isOver, ended])
  | act sole stepped working acted => exact .inr (orderly.closer_of_act sole stepped acted prompt)
  | elapse idle least => exact .inr (orderly.closer_of_elapse sup going idle least)

theorem prompt_of_services {after : Turn}
    (h : (loopMoves.map fun move => (Turn.loop, move)).findSome?
      (fun (turn, move) => (s.step setup move).map fun s => (turn, s)) = some (after, next)) :
    ∃ move, s.step setup move = some next ∧ s.Prompt move := by
  cases joined : s.step setup .join with
  | some state =>
    simp only [loopMoves, List.map_cons, List.findSome?_cons, joined, Option.map_some] at h
    cases h
    exact ⟨.join, joined, trivial⟩
  | none =>
  cases expired : s.step setup .deadline with
  | some state =>
    simp only [loopMoves, loopServices, List.map_cons, List.findSome?_cons, joined, expired,
      Option.map_some, Option.map_none] at h
    cases h
    exact ⟨.deadline, expired, trivial⟩
  | none =>
  have early (selecting : s.stage = .selecting) : s.rig.now < s.deadline := by
    refine Nat.lt_of_not_le fun due => ?_
    have ready : (s.step setup .deadline).isSome = true :=
      step_isSome_of_ready (s.isReady_deadline.mpr ⟨selecting, due⟩)
    rw [expired] at ready
    cases ready
  obtain ⟨⟨_, move⟩, mem, made⟩ := List.exists_of_findSome?_eq_some h
  obtain ⟨_, listed, pair⟩ := List.mem_map.mp mem
  cases pair
  obtain ⟨state, stepped, same⟩ := Option.map_eq_some_iff.mp made
  cases same
  refine ⟨move, stepped, ?_⟩
  cases move with
  | join | deadline | elapse => trivial
  | act => simp [loopMoves, loopServices] at listed
  | tick =>
    obtain ⟨ready, -⟩ := Option.ite_none_right_eq_some.mp stepped
    exact early (s.isReady_tick.mp ready).1
  | reconnect =>
    obtain ⟨ready, -⟩ := Option.ite_none_right_eq_some.mp stepped
    exact early (s.isReady_reconnect.mp ready).1
  | restart =>
    obtain ⟨ready, -⟩ := Option.ite_none_right_eq_some.mp stepped
    exact early (s.isReady_restart.mp ready).1

theorem proceed_prompt {turn after : Turn} (h : s.proceed setup turn = some (after, next)) :
    ∃ move, s.step setup move = some next ∧ s.Prompt move := by
  have other {moves : List (Turn × Move)} (prompt : ∀ pair ∈ moves, s.Prompt pair.2)
      (h : moves.findSome? (fun (turn, move) => (s.step setup move).map fun s => (turn, s)) =
        some (after, next)) : ∃ move, s.step setup move = some next ∧ s.Prompt move := by
    obtain ⟨⟨_, move⟩, mem, made⟩ := List.exists_of_findSome?_eq_some h
    obtain ⟨state, stepped, same⟩ := Option.map_eq_some_iff.mp made
    cases same
    exact ⟨move, stepped, prompt _ mem⟩
  have acts : ∀ pair ∈ s.controllerMoves.map fun move => (Turn.controllers, move),
      s.Prompt pair.2 := by
    simp [controllerMoves, Prompt]
  have elapses : ∀ pair ∈ [(Turn.loop, Move.elapse)], s.Prompt pair.2 := by simp [Prompt]
  unfold proceed agenda at h
  cases turn <;> rw [List.findSome?_append, List.findSome?_append] at h <;>
    rcases Option.or_eq_some_iff.mp h with first | ⟨-, last⟩
  · rcases Option.or_eq_some_iff.mp first with loop | ⟨-, controllers⟩
    · exact prompt_of_services loop
    · exact other acts controllers
  · exact other elapses last
  · rcases Option.or_eq_some_iff.mp first with controllers | ⟨-, loop⟩
    · exact other acts controllers
    · exact prompt_of_services loop
  · exact other elapses last

theorem runFrom_of_over {fuel : Nat} {turn : Turn} (ended : s.isOver = true) (some : 1 ≤ fuel) :
    (Soak.runFrom setup fuel turn s).isSome = true := by
  obtain ⟨fuel, rfl⟩ := Nat.exists_eq_add_of_le' some
  rw [Soak.runFrom, if_pos ended]
  rfl

theorem Reachable.exists_enough (unhurried : Unhurried setup)
    (valid : setup.config.validate = .ok ()) (reach : Reachable setup s) (turn : Turn) :
    ∃ enough, ∀ fuel, enough ≤ fuel → (Soak.runFrom setup fuel turn s).isSome = true := by
  induction s using (Closer.wf setup).induction generalizing turn with
  | h s ih =>
  cases ended : s.isOver with
  | true => exact ⟨1, fun fuel => runFrom_of_over ended⟩
  | false =>
    have orderly := reach.orderly unhurried
    obtain ⟨after, next, proceeded⟩ := orderly.proceeds reach.supervised ended turn
    obtain ⟨move, stepped, prompt⟩ := proceed_prompt proceeded
    obtain ⟨less, ends⟩ : ∃ less, ∀ fuel, less ≤ fuel →
        (Soak.runFrom setup fuel after next).isSome = true := by
      rcases (transition_of_step reach.supervised stepped).closer orderly reach.supervised
        unhurried valid prompt ended with finished | closer
      · exact ⟨1, fun fuel => runFrom_of_over finished⟩
      · exact ih next closer (reach.step move stepped) after
    refine ⟨less + 1, fun fuel enough => ?_⟩
    obtain ⟨fuel, rfl⟩ := Nat.exists_eq_add_of_le' (Nat.le_trans (Nat.le_add_left 1 less) enough)
    simp only [Soak.runFrom, ended, proceeded]
    exact ends fuel (Nat.le_of_succ_le_succ enough)

/-- Given enough moves an unhurried run ends, whatever its settings. -/
theorem unhurried_run_ends (unhurried : Unhurried setup) :
    ∃ enough, ∀ fuel, enough ≤ fuel → (run setup fuel).isSome = true := by
  cases valid : setup.config.validate with
  | ok => exact Reachable.begin.exists_enough unhurried valid .loop
  | error failure =>
    have finished : (begin setup).isOver = true := by simp [begin, valid, isOver]
    exact ⟨1, fun fuel => runFrom_of_over finished⟩

end Soak

/-- The simulated controller takes its time if it takes any to establish a tunnel or for a
tunnel to settle. -/
theorem Simulation.script_unhurried (sim : Simulation) {settleMs : Nat}
    (slow : 0 < sim.establishMs + settleMs) : sim.script.Unhurried settleMs where
  repeats := rfl
  rests := by
    rcases Nat.eq_zero_or_pos sim.establishMs with instant | slow
    · have settles : 0 < settleMs := by omega
      refine ⟨.emit (tunnelsNotice 1), by simp [script], ?_⟩
      simp [Controller.Act.rests, establishes_tunnelsNotice_one, settles]
    · exact ⟨.sleep sim.establishMs, by simp [script], decide_eq_true slow⟩
  pauses := ⟨.awaitTermination, by simp [script], rfl⟩
  late := by
    rcases Nat.eq_zero_or_pos sim.establishMs with instant | slow
    · have settles : 0 < settleMs := by omega
      by_cases fits : sim.Fits <;>
        simp [script, leak, fits, Controller.Act.posts, Controller.Act.rests,
          Controller.Act.establishes, instant, establishes_tunnelsNotice_one, settles]
    · simp [script, Controller.Act.posts, Controller.Act.rests, slow]
  brief := by
    simp [script, Controller.Act.Brief, Controller.Act.pauses, Controller.Act.establishes,
      establishes_peakNotice, establishes_meekPeakNotice]

end TunnelSoak
