import TunnelSoak.Proofs.Rig.Deliveries

/-! How much a controller can do before time passes or it is over. Its script may go on for
ever; what bounds it is that each round takes time, and that a controller that is cancelled
comes to an act at which it notices. -/
namespace TunnelSoak

open Rig (Handled)

namespace Dispatcher

theorem counted_requests (d : Dispatcher) : d.counted.requests = d.requests := rfl

theorem requests_settle_le (coin : Nat → Bool) (d : Dispatcher) :
    (d.settle coin).2.requests ≤ d.requests + 1 := by
  rcases d.settle_cases coin with ⟨-, settled⟩ | ⟨-, -, settled⟩
  · rw [settled]
    exact Nat.le_succ _
  · rw [settled]
    have added (full : Bool) : 1 ≤ full.toNat + 1 := Nat.le_add_left _ _
    cases d.mode.request coin d.flips with
    | reconnect => simp [requests, setPending, flipped]; omega
    | restart => simp [requests, setPending, flipped]

end Dispatcher

namespace Controller

namespace Act

/-- Time passes at this act, where an establishment takes `settleMs` to settle. -/
def rests (settleMs : Nat) : Act → Bool
  | .sleep ms => decide (0 < ms)
  | .emit notice => Notice.establishes notice && decide (0 < settleMs)
  | _ => false

def establishes : Act → Bool
  | .emit notice => Notice.establishes notice
  | _ => false

/-- The acts up to the first one that stops, or those beyond the last. -/
def span (stops : Act → Bool) (beyond : Nat) : List Act → Nat
  | [] => beyond
  | act :: rest => if stops act then 1 else 1 + span stops beyond rest

theorem span_of_mem {stops : Act → Bool} {acts : List Act}
    (stopped : ∃ act ∈ acts, stops act = true) (n m : Nat) :
    span stops n acts = span stops m acts := by
  induction acts with
  | nil => simp at stopped
  | cons act rest ih =>
    unfold span
    split
    · rfl
    · rename_i goes
      obtain ⟨other, mem, stop⟩ := stopped
      rcases List.mem_cons.mp mem with rfl | mem
      · exact absurd stop goes
      · rw [ih ⟨other, mem, stop⟩]

def posts (settleMs : Nat) : List Act → Nat
  | [] => 0
  | act :: rest => if act.rests settleMs then 0 else act.establishes.toNat + posts settleMs rest

theorem instant_spec {act : Act} (instant : act = .sleep 0 ∨ act = .awaitTermination ∨
      act = .raise ∨ act = .lower ∨ act = .abandon) (settleMs : Nat) :
    act.rests settleMs = false ∧ act.establishes = false := by
  rcases instant with rfl | rfl | rfl | rfl | rfl <;> exact ⟨rfl, rfl⟩

def Brief (act : Act) : Prop := act.pauses = false ∧ act.establishes = false

theorem posts_brief {settleMs : Nat} {acts : List Act} (brief : ∀ act ∈ acts, act.Brief) :
    posts settleMs acts = 0 := by
  induction acts with
  | nil => rfl
  | cons act rest ih =>
    rw [List.forall_mem_cons] at brief
    unfold posts
    split
    · rfl
    · rw [brief.1.2, ih brief.2]
      rfl

end Act

open Act (span posts)

/-- A script whose run part goes on for ever but takes time in each round, before it posts
a request. -/
structure Script.Unhurried (settleMs : Nat) (script : Script) : Prop where
  repeats : script.repeats = true
  rests : ∃ act ∈ script.run, act.rests settleMs = true
  pauses : ∃ act ∈ script.run, act.pauses = true
  late : posts settleMs script.run = 0
  brief : ∀ act ∈ script.shutdown, act.Brief

/-- The acts up to the first one that stops, in this round or the next. -/
def Script.way (script : Script) (stops : Act → Bool) (acts : List Act) : Nat :=
  span stops (1 + span stops 0 script.run) acts

section way
variable {script : Script} {stops : Act → Bool} {act : Act} {rest : List Act}

theorem Script.way_nil (stopped : ∃ act ∈ script.run, stops act = true) :
    script.way stops [] = 1 + script.way stops script.run :=
  congrArg (1 + ·) (Act.span_of_mem stopped _ _)

theorem Script.way_go (go : stops act = false) :
    script.way stops (act :: rest) = 1 + script.way stops rest :=
  if_neg (Bool.eq_false_iff.mp go)

theorem Script.way_pos (stopped : ∃ act ∈ script.run, stops act = true) (acts : List Act) :
    0 < script.way stops acts := by
  cases acts with
  | nil => rw [way_nil stopped]; omega
  | cons act rest =>
    unfold way span
    split <;> omega

end way

namespace Task

/-- The acts of a controller before it waits for time to pass. -/
def effort (settleMs now : Nat) (t : Task) : Nat :=
  let way := t.script.way (Act.rests settleMs)
  match t.stage with
  | .spawned => 1 + way t.script.run
  | .ready => way t.todo
  | .woken => 1 + way t.todo
  | .sleeping due => if due ≤ now then 1 + way t.todo else 0
  | .settling due _ => if due ≤ now then 1 + way t.todo else 0
  | _ => 0

/-- The acts of a cancelled controller before it is over, the end of a settle delay included. -/
def retreat (now : Nat) (t : Task) : Nat :=
  let last := t.script.shutdown.length + 1
  -- a delivery takes three moves at the most: itself, the wait and the end of its settle delay
  let way acts := 3 * t.script.way Act.pauses acts + last
  match t.stage with
  | .spawned => 1 + way t.script.run
  | .ready => if t.shuttingDown then t.todo.length + 1 else way t.todo
  | .settling due _ => if due ≤ now then 1 + way t.todo else 2 + way t.todo
  | .exited | .crashed _ => 0
  | _ => 1 + last

def labour (settleMs now : Nat) (t : Task) : Nat :=
  if t.cancelled then t.retreat now else t.effort settleMs now

def posts (settleMs now : Nat) (t : Task) : Nat :=
  match t.stage with
  | .spawned => Act.posts settleMs t.script.run
  | .ready | .parked | .woken => Act.posts settleMs t.todo
  | .sleeping due => if due ≤ now then Act.posts settleMs t.todo else 0
  | .settling due _ => if due ≤ now then 1 + Act.posts settleMs t.todo else 0
  | _ => 0

@[simp] theorem posts_cancel (settleMs now : Nat) (t : Task) :
    t.cancel.posts settleMs now = t.posts settleMs now := rfl

@[simp] theorem posts_terminate (settleMs now : Nat) (t : Task) :
    t.terminate.posts settleMs now = t.posts settleMs now := by
  obtain ⟨todo, -⟩ := t.terminate_todo
  unfold posts
  rw [t.terminate_kept.script, todo]
  rcases t.terminate_stage with same | ⟨parked, woken⟩
  · rw [same]
  · rw [parked, woken]

/-- An unhurried controller, which shuts down only once it is cancelled. -/
structure Orderly (settleMs : Nat) (t : Task) : Prop where
  script : t.script.Unhurried settleMs
  leaving : t.shuttingDown = true →
    t.cancelled = true ∧ (t.stage = .ready ∨ t.isOver = true) ∧ ∀ act ∈ t.todo, act.Brief

section steps
variable {settleMs now : Nat} {heed : Bool} {t mid after : Task} {e : Effect}
  {coin : Nat → Bool} {d later : Dispatcher} {results : List Dispatched}

theorem lt_of_waiting (still : t.step now true = none) {due : Nat} (waits : t.due? = some due) :
    now < due := by
  refine Nat.lt_of_not_le fun past => ?_
  unfold due? at waits
  split at waits
  · cases waits
    simp only [Task.step, *, if_true] at still
    split at still <;> cases still
  · cases waits
    simp [Task.step, *] at still
  · cases waits

theorem Orderly.cancel (orderly : t.Orderly settleMs) : t.cancel.Orderly settleMs :=
  ⟨orderly.script, fun leaving => ⟨rfl, (orderly.leaving leaving).2⟩⟩

theorem Orderly.terminate (orderly : t.Orderly settleMs) : t.terminate.Orderly settleMs := by
  refine ⟨t.terminate_kept.script ▸ orderly.script, fun leaving => ?_⟩
  obtain ⟨same, shuttingDown⟩ := t.terminate_todo
  rw [shuttingDown] at leaving
  obtain ⟨told, stage, brief⟩ := orderly.leaving leaving
  refine ⟨t.terminate_kept.cancelled.trans told, ?_, same ▸ brief⟩
  rcases stage with ready | ended
  · rcases t.terminate_stage with kept | ⟨parked, -⟩
    · exact .inl (kept.trans ready)
    · rw [ready] at parked
      cases parked
  · exact .inr (t.terminate_isOver.trans ended)

theorem Orderly.working (orderly : t.Orderly settleMs) (stage : t.stage ≠ .ready)
    (going : t.isOver = false) : t.shuttingDown = false := by
  apply Bool.eq_false_iff.mpr
  intro leaving
  rcases (orderly.leaving leaving).2.1 with ready | ended
  · exact stage ready
  · rw [going] at ended
    cases ended

theorem Orderly.step (orderly : t.Orderly settleMs) (h : t.step now heed = some (mid, e))
    (handled : Handled coin d now mid e later results after) : after.Orderly settleMs := by
  obtain ⟨kept, -, going⟩ := step_spec h
  obtain ⟨stage, same⟩ := handled.after_eq
  refine ⟨same ▸ kept.script ▸ orderly.script, fun leaving => ?_⟩
  have shuttingDown : mid.shuttingDown = true := by rwa [same] at leaving
  have cancelled : after.cancelled = t.cancelled := by rw [same]; exact kept.cancelled
  have waited (stage : t.stage ≠ .ready) : t.shuttingDown ≠ true :=
    Bool.eq_false_iff.mp (orderly.working stage going)
  rw [cancelled]
  cases stepped h with
  | begin stage => exact absurd shuttingDown (waited (by simp [stage]))
  | settle stage => exact absurd shuttingDown (waited (by simp [stage]))
  | resume stage =>
    refine absurd shuttingDown (waited ?_)
    rcases stage with stage | ⟨due, -, stage⟩ <;> simp [stage]
  | again stage done working | finish stage done working =>
    rw [working] at shuttingDown
    cases shuttingDown
  | quit permit live settled told =>
    cases handled
    exact ⟨told, .inl rfl, orderly.script.brief⟩
  | exit stage done =>
    obtain ⟨told, -, brief⟩ := orderly.leaving shuttingDown
    cases handled
    exact ⟨told, .inr rfl, brief⟩
  | crash stage todo =>
    obtain ⟨told, -, brief⟩ := orderly.leaving shuttingDown
    rw [todo, List.forall_mem_cons] at brief
    cases handled
    exact ⟨told, .inr rfl, brief.2⟩
  | sleep stage todo | park stage todo =>
    obtain ⟨-, -, brief⟩ := orderly.leaving shuttingDown
    rw [todo, List.forall_mem_cons] at brief
    cases brief.1.1
  | deliver stage todo =>
    obtain ⟨told, -, brief⟩ := orderly.leaving shuttingDown
    rw [todo, List.forall_mem_cons] at brief
    have quiet := brief.1.2
    cases handled with
    | quiet => exact ⟨told, .inl rfl, brief.2⟩
    | atOnce establishes | delayed establishes =>
      rw [Act.establishes, establishes] at quiet
      cases quiet
    | aside aside => cases aside
  | pass permit tunnelUp stage todo instant plain =>
    obtain ⟨told, -, brief⟩ := orderly.leaving shuttingDown
    rw [todo, List.forall_mem_cons] at brief
    obtain ⟨rfl, rfl, rfl⟩ := handled.of_aside (by rcases plain with rfl | rfl | rfl <;> rfl)
    exact ⟨told, .inl stage, brief.2⟩

section working
variable (orderly : t.Orderly settleMs)
include orderly

theorem Orderly.posts_le (same : d.settleMs = settleMs) (h : t.step now heed = some (mid, e))
    (handled : Handled coin d now mid e later results after) :
    later.requests + after.posts settleMs now ≤ d.requests + t.posts settleMs now := by
  cases stepped h with
  | begin stage =>
    cases handled
    simp [posts, stage]
  | exit | finish =>
    cases handled
    simp [posts]
  | again stage =>
    cases handled
    simp [posts, stage, orderly.script.late]
  | quit =>
    cases handled
    simp [posts, shutDown, Act.posts_brief orderly.script.brief]
  | resume waited =>
    cases handled
    rcases waited with stage | ⟨due, past, stage⟩ <;> simp [posts, *]
  | settle stage past =>
    cases handled with
    | settled =>
      have posted := Dispatcher.requests_settle_le coin d
      simp only [posts, stage, past, if_true]
      omega
    | aside aside => cases aside
  | crash stage =>
    cases handled
    simp [posts]
  | @sleep ms rest stage todo long =>
    cases handled
    have later : ¬ now + ms ≤ now := by omega
    simp [posts, later]
  | park stage todo =>
    cases handled
    simp [posts, stage, todo, Act.posts, Act.rests, Act.establishes]
  | pass permit tunnelUp stage todo instant plain =>
    obtain ⟨rests, silent⟩ := Act.instant_spec instant settleMs
    obtain ⟨rfl, rfl, rfl⟩ := handled.of_aside (by rcases plain with rfl | rfl | rfl <;> rfl)
    simp [posts, stage, todo, Act.posts, rests, silent]
  | @deliver notice rest stage todo =>
    simp only [posts, stage, todo, Act.posts]
    cases handled with
    | quiet quiet => simp [Act.rests, Act.establishes, quiet]
    | atOnce establishes instant =>
      have posted := Dispatcher.requests_settle_le coin d.counted
      rw [d.counted_requests] at posted
      simp only [Act.rests, Act.establishes, establishes, ← same, instant]
      simp
      omega
    | delayed establishes late =>
      have later : ¬ now + d.settleMs ≤ now := by omega
      simp [later, Dispatcher.counted_requests]
    | aside aside => cases aside

theorem Orderly.effort_lt (same : d.settleMs = settleMs) (going : t.cancelled = false)
    (h : t.step now heed = some (mid, e))
    (handled : Handled coin d now mid e later results after) :
    after.effort settleMs now < t.effort settleMs now := by
  have stopped := orderly.script.rests
  cases stepped h with
  | begin stage =>
    cases handled
    simp only [effort, stage]
    omega
  | exit stage done leaving =>
    cases handled
    simp only [effort, stage, done, Script.way_nil stopped]
    omega
  | again stage done =>
    cases handled
    simp only [effort, stage, done, Script.way_nil stopped]
    omega
  | finish stage done working once =>
    rw [orderly.script.repeats] at once
    cases once
  | quit permit live settled told =>
    rw [going] at told
    cases told
  | resume waited =>
    cases handled
    rcases waited with stage | ⟨due, past, stage⟩ <;> simp only [effort, *, if_true] <;> omega
  | settle stage past =>
    cases handled with
    | settled => simp only [effort, stage, past, if_true]; omega
    | aside aside => cases aside
  | crash stage =>
    cases handled
    simpa [effort, stage] using Script.way_pos stopped _
  | @sleep ms rest stage todo long =>
    cases handled
    have later : ¬ now + ms ≤ now := by omega
    simpa [effort, stage, later] using Script.way_pos stopped _
  | park stage todo =>
    cases handled
    simpa [effort, stage] using Script.way_pos stopped _
  | pass permit tunnelUp stage todo instant plain =>
    obtain ⟨rests, -⟩ := Act.instant_spec instant settleMs
    obtain ⟨rfl, rfl, rfl⟩ := handled.of_aside (by rcases plain with rfl | rfl | rfl <;> rfl)
    simp [effort, stage, todo, Script.way_go rests]
  | @deliver notice rest stage todo =>
    simp only [effort, stage, todo]
    cases handled with
    | quiet quiet =>
      rw [Script.way_go (by simp [Act.rests, quiet])]
      exact Nat.lt_add_of_pos_left Nat.one_pos
    | atOnce establishes instant =>
      rw [Script.way_go (by simp [Act.rests, ← same, instant])]
      exact Nat.lt_add_of_pos_left Nat.one_pos
    | delayed establishes late =>
      have later : ¬ now + d.settleMs ≤ now := by omega
      simpa [later] using Script.way_pos stopped _
    | aside aside => cases aside

theorem Orderly.shutdown_lt_retreat (going : t.isOver = false) (working : t.shuttingDown = false) :
    t.script.shutdown.length + 1 < t.retreat now := by
  have positive := Script.way_pos orderly.script.pauses t.todo
  simp only [retreat, working, Bool.false_eq_true, if_false]
  split
  · omega
  · omega
  · split <;> omega
  · simp_all [isOver]
  · simp_all [isOver]
  · omega

theorem Orderly.leaving_of_unnoticed (told : t.cancelled = true)
    (unnoticed : (t.interrupted && true) = false) :
    t.shuttingDown = true ∧ (t.stage = .ready ∨ t.isOver = true) ∧ ∀ act ∈ t.todo, act.Brief := by
  have leaving : t.shuttingDown = true := by simpa [interrupted, told] using unnoticed
  exact ⟨leaving, (orderly.leaving leaving).2⟩

/-- What a cancelled controller has left gets less, whatever it does and however long it takes. -/
theorem Orderly.retreat_lt (told : t.cancelled = true) (h : t.step now true = some (mid, e))
    (handled : Handled coin d now mid e later results after) :
    after.retreat now < t.retreat now := by
  obtain ⟨-, -, going⟩ := step_spec h
  have stopped := orderly.script.pauses
  have working (stage : t.stage ≠ .ready) : t.shuttingDown = false := orderly.working stage going
  cases stepped h with
  | begin stage =>
    cases handled
    simp [retreat, stage, working]
  | exit stage done leaving =>
    cases handled
    simp [retreat, stage, leaving]
  | again stage done working =>
    cases handled
    simp only [retreat, stage, done, working, Script.way_nil stopped, Bool.false_eq_true, if_false]
    omega
  | finish stage done working once =>
    rw [orderly.script.repeats] at once
    cases once
  | quit permit live settled told newly =>
    cases handled
    refine orderly.shutdown_lt_retreat going ?_
    rcases newly with early | stage
    · exact early
    · exact working (by simp [stage])
  | resume waited unnoticed =>
    obtain ⟨-, ready | ended, -⟩ := orderly.leaving_of_unnoticed told unnoticed
    · rcases waited with stage | ⟨due, -, stage⟩ <;> simp [stage] at ready
    · rw [going] at ended
      cases ended
  | settle stage past =>
    cases handled with
    | settled => simp [retreat, stage, past, working]
    | aside aside => cases aside
  | crash stage =>
    cases handled
    simp only [retreat, stage]
    split <;> omega
  | sleep stage todo long unnoticed | park stage todo unnoticed =>
    obtain ⟨-, -, brief⟩ := orderly.leaving_of_unnoticed told unnoticed
    rw [todo, List.forall_mem_cons] at brief
    cases brief.1.1
  | @pass act rest _ permit tunnelUp stage todo instant plain unnoticed =>
    obtain ⟨rfl, rfl, rfl⟩ := handled.of_aside (by rcases plain with rfl | rfl | rfl <;> rfl)
    simp only [retreat, stage, todo]
    split
    · simp
    · rename_i early
      have goes : act.pauses = false := Bool.eq_false_iff.mpr fun stop =>
        early (orderly.leaving_of_unnoticed told (unnoticed stop)).1
      rw [Script.way_go goes]
      omega
  | @deliver notice rest stage todo =>
    have goes : (Act.emit notice).pauses = false := rfl
    simp only [retreat, stage, todo, Script.way_go goes]
    cases handled with
    | quiet | atOnce =>
      simp only
      split
      · simp
      · omega
    | delayed establishes =>
      have working : t.shuttingDown ≠ true := fun leaving => by
        obtain ⟨-, -, brief⟩ := orderly.leaving leaving
        rw [todo, List.forall_mem_cons] at brief
        exact Bool.false_ne_true (brief.1.2.symm.trans establishes)
      rw [if_neg working]
      simp only
      split <;> omega
    | aside aside => cases aside

/-- Whatever a controller does at one time, it has less left to do. -/
theorem Orderly.labour_lt (same : d.settleMs = settleMs) (h : t.step now true = some (mid, e))
    (handled : Handled coin d now mid e later results after) :
    after.labour settleMs now < t.labour settleMs now := by
  obtain ⟨kept, -, -⟩ := step_spec h
  obtain ⟨stage, changed⟩ := handled.after_eq
  have cancelled : after.cancelled = t.cancelled := by
    rw [changed]
    exact kept.cancelled
  unfold labour
  rw [cancelled]
  split
  · rename_i told
    exact orderly.retreat_lt told h handled
  · rename_i going
    exact orderly.effort_lt same (Bool.eq_false_iff.mpr going) h handled

theorem Orderly.due_of_waiting (told : t.cancelled = true) (going : t.isOver = false)
    (still : t.step now true = none) :
    ∃ due established, t.stage = .settling due established ∧ now < due := by
  have noticed (stage : t.stage ≠ .ready) : t.interrupted = true := by
    simp [interrupted, told, orderly.working stage going]
  cases stage : t.stage with
  | settling due established =>
    refine ⟨due, established, rfl, Nat.lt_of_not_le fun past => ?_⟩
    simp [Task.step, stage, past] at still
  | ready =>
    simp only [Task.step, stage] at still
    split at still <;> cases still
  | spawned => simp [Task.step, stage] at still
  | sleeping | parked | woken => simp [Task.step, stage, noticed] at still
  | finished => simp [Task.step, stage, told] at still
  | exited | crashed => simp [isOver, stage] at going

omit orderly in
theorem retreat_lt_of_settled {due established later : Nat}
    (stage : t.stage = .settling due established) (waiting : now < due) (past : due ≤ later) :
    t.retreat later < t.retreat now := by
  simp only [retreat, stage, if_pos past, if_neg (Nat.not_le_of_lt waiting)]
  omega

end working

end steps

end Task

end Controller

end TunnelSoak
