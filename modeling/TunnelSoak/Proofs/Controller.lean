import TunnelSoak.Controller.Task

/-! What one step of a controller can do to its own task. -/
namespace TunnelSoak.Controller

/-- At this act a cancellation is noticed. -/
def Act.pauses : Act → Bool
  | .sleep _ => true
  | .awaitTermination => true
  | _ => false

namespace Task

/-- The task is in the hands of the runtime: it has begun and is not over. -/
def isLive (t : Task) : Bool := decide (t.stage ≠ .spawned) && !t.isOver

def hasCrashed (t : Task) : Bool :=
  match t.stage with
  | .crashed _ => true
  | _ => false

def isSettling (t : Task) : Bool :=
  match t.stage with
  | .settling _ _ => true
  | _ => false

theorem isOver_of_exited {t : Task} (h : t.stage = .exited) : t.isOver = true := by
  simp [isOver, h]

theorem isOver_of_crashed {t : Task} {message : String} (h : t.stage = .crashed message) :
    t.isOver = true := by
  simp [isOver, h]

theorem not_hasCrashed {t : Task} (working : t.isOver = false) : t.hasCrashed = false := by
  unfold isOver at working
  unfold hasCrashed
  split <;> simp_all

theorem isLive_of_hasCrashed {t : Task} (crashed : t.hasCrashed = true) : t.isLive = false := by
  unfold hasCrashed at crashed
  split at crashed
  · simp [isLive, isOver, *]
  · cases crashed

/-- What a step announces is what becomes of the stage. -/
def Announces (e : Effect) (before after : Stage) : Prop :=
  match e with
  | .begin => before = .spawned ∧ after = .ready
  | .exit => before ≠ .spawned ∧ after = .exited
  | .crash message _ => before ≠ .spawned ∧ after = .crashed message
  | .deliver _ => before ≠ .spawned ∧ after = .ready
  | _ =>
    before ≠ .spawned ∧ after ≠ .spawned ∧ after ≠ .exited ∧ ∀ message, after ≠ .crashed message

/-- The parts of a task that no step of its own changes. -/
structure Kept (t after : Task) : Prop where
  id : after.id = t.id
  script : after.script = t.script
  cancelled : after.cancelled = t.cancelled

@[simp] theorem cancel_id (t : Task) : t.cancel.id = t.id := rfl

theorem terminate_kept (t : Task) : Kept t t.terminate := by
  unfold terminate
  (repeat' split) <;> exact ⟨rfl, rfl, rfl⟩

@[simp] theorem terminate_id (t : Task) : t.terminate.id = t.id := t.terminate_kept.id

@[simp] theorem cancel_hasCrashed (t : Task) : t.cancel.hasCrashed = t.hasCrashed := rfl

theorem terminate_stage (t : Task) :
    t.terminate.stage = t.stage ∨ t.stage = .parked ∧ t.terminate.stage = .woken := by
  unfold terminate
  split
  · exact .inl rfl
  · split
    · rename_i parked
      exact .inr ⟨parked, rfl⟩
    · exact .inl rfl

@[simp] theorem terminate_isOver (t : Task) : t.terminate.isOver = t.isOver := by
  rcases t.terminate_stage with same | ⟨parked, woken⟩
  · simp [isOver, same]
  · simp [isOver, parked, woken]

@[simp] theorem terminate_isLive (t : Task) : t.terminate.isLive = t.isLive := by
  rcases t.terminate_stage with same | ⟨parked, woken⟩
  · simp [isLive, same]
  · simp [isLive, isOver, parked, woken]

@[simp] theorem terminate_hasCrashed (t : Task) : t.terminate.hasCrashed = t.hasCrashed := by
  rcases t.terminate_stage with same | ⟨parked, woken⟩
  · simp [hasCrashed, same]
  · simp [hasCrashed, parked, woken]

theorem terminate_exited (t : Task) : t.terminate.stage = .exited ↔ t.stage = .exited := by
  rcases t.terminate_stage with same | ⟨parked, woken⟩
  · rw [same]
  · simp [parked, woken]

theorem terminate_todo (t : Task) :
    t.terminate.todo = t.todo ∧ t.terminate.shuttingDown = t.shuttingDown := by
  unfold terminate
  (repeat' split) <;> exact ⟨rfl, rfl⟩

/-- Everything a step can do. A cancellation is noticed only where it is heeded. -/
inductive Stepped (now : Nat) (heed : Bool) (t : Task) : Task → Effect → Prop
  | begin (stage : t.stage = .spawned) :
    Stepped now heed t { t with stage := .ready, todo := t.script.run } .begin
  | exit (stage : t.stage = .ready) (done : t.todo = []) (leaving : t.shuttingDown = true) :
    Stepped now heed t { t with stage := .exited } .exit
  | again (stage : t.stage = .ready) (done : t.todo = []) (working : t.shuttingDown = false)
    (repeats : t.script.repeats = true) :
    Stepped now heed t { t with todo := t.script.run } .none
  | finish (stage : t.stage = .ready) (done : t.todo = []) (working : t.shuttingDown = false)
    (once : t.script.repeats = false) :
    Stepped now heed t { t with stage := .finished } .none
  | quit (permit : Bool) (live : t.isLive = true) (settled : t.isSettling = false)
    (told : t.cancelled = true) (newly : t.shuttingDown = false ∨ t.stage = .finished) :
    Stepped now heed t { t.shutDown with permit } .none
  | resume (waited : t.stage = .woken ∨ ∃ due ≤ now, t.stage = .sleeping due)
    (unnoticed : (t.interrupted && heed) = false) :
    Stepped now heed t { t with stage := .ready } .none
  | settle {due established : Nat} (stage : t.stage = .settling due established)
    (past : due ≤ now) : Stepped now heed t { t with stage := .ready } (.settle established)
  | deliver {notice : List UInt8} {rest : List Act} (stage : t.stage = .ready)
    (todo : t.todo = .emit notice :: rest) :
    Stepped now heed t { t with todo := rest } (.deliver notice)
  | crash {message : String} {rest : List Act} (stage : t.stage = .ready)
    (todo : t.todo = .crash message :: rest) :
    Stepped now heed t { t with stage := .crashed message, todo := rest, tunnelUp := false }
      (.crash message t.script.tidy)
  | sleep {ms : Nat} {rest : List Act} (stage : t.stage = .ready)
    (todo : t.todo = .sleep ms :: rest)
    (long : ms ≠ 0) (unnoticed : (t.interrupted && heed) = false) :
    Stepped now heed t { t with stage := .sleeping (now + ms), todo := rest } .none
  | park {rest : List Act} (stage : t.stage = .ready) (todo : t.todo = .awaitTermination :: rest)
    (unnoticed : (t.interrupted && heed) = false) :
    Stepped now heed t { t with stage := .parked, todo := rest } .none
  | pass {act : Act} {rest : List Act} {e : Effect} (permit tunnelUp : Bool)
    (stage : t.stage = .ready) (todo : t.todo = act :: rest)
    (instant : act = .sleep 0 ∨ act = .awaitTermination ∨ act = .raise ∨ act = .lower ∨
      act = .abandon) (plain : e = .none ∨ e = .raise ∨ e = .lower)
    (unnoticed : act.pauses = true → (t.interrupted && heed) = false) :
    Stepped now heed t { t with todo := rest, permit, tunnelUp } e

section stepped
variable {now : Nat} {heed : Bool} {t after : Task} {e : Effect}

theorem Stepped.of_noticed (permit : Bool) (live : t.isLive = true) (settled : t.isSettling = false)
    (told : t.interrupted = true) : Stepped now heed t { t.shutDown with permit } .none := by
  simp only [interrupted, Bool.and_eq_true, Bool.not_eq_true'] at told
  exact .quit permit live settled told.1 (.inl told.2)

theorem stepped_of_perform {act : Act} {rest : List Act} (stage : t.stage = .ready)
    (todo : t.todo = act :: rest) (h : t.perform now heed rest act = (after, e)) :
    Stepped now heed t after e := by
  have live : t.isLive = true := by simp [isLive, isOver, stage]
  have settled : t.isSettling = false := by simp [isSettling, stage]
  cases act with
  | emit =>
    cases h
    exact .deliver stage todo
  | crash =>
    cases h
    exact .crash stage todo
  | raise | lower | abandon =>
    cases h
    exact .pass t.permit _ stage todo (by simp) (by simp) nofun
  | sleep ms =>
    simp only [perform] at h
    split at h
    · rename_i noticed
      cases h
      exact .of_noticed t.permit live settled (Bool.and_eq_true_iff.mp noticed).1
    · rename_i unnoticed
      have unnoticed := Bool.eq_false_iff.mpr unnoticed
      split at h
      · rename_i zero
        cases h
        exact .pass t.permit t.tunnelUp stage todo (.inl (zero ▸ rfl)) (.inl rfl) fun _ => unnoticed
      · rename_i long
        cases h
        exact .sleep stage todo long unnoticed
  | awaitTermination =>
    simp only [perform] at h
    split at h
    · rename_i noticed
      cases h
      exact .of_noticed t.permit live settled (Bool.and_eq_true_iff.mp noticed).1
    · rename_i unnoticed
      have unnoticed := Bool.eq_false_iff.mpr unnoticed
      split at h
      · cases h
        exact .pass false t.tunnelUp stage todo (by simp) (.inl rfl) fun _ => unnoticed
      · cases h
        exact .park stage todo unnoticed

theorem stepped_of_endPart (stage : t.stage = .ready) (done : t.todo = [])
    (h : t.endPart = (after, e)) : Stepped now heed t after e := by
  unfold endPart at h
  split at h
  · rename_i leaving
    cases h
    exact .exit stage done leaving
  · rename_i working
    have working := Bool.eq_false_iff.mpr working
    split at h
    · rename_i repeats
      cases h
      exact .again stage done working repeats
    · rename_i once
      cases h
      exact .finish stage done working (Bool.eq_false_iff.mpr once)

theorem stepped (h : t.step now heed = some (after, e)) : Stepped now heed t after e := by
  unfold step at h
  split at h
  next stage =>
    cases h
    exact .begin stage
  next stage =>
    split at h
    next done => exact stepped_of_endPart stage done (Option.some.inj h)
    next act rest todo => exact stepped_of_perform stage todo (Option.some.inj h)
  next due stage =>
    have live : t.isLive = true := by simp [isLive, isOver, stage]
    have settled : t.isSettling = false := by simp [isSettling, stage]
    split at h
    · rename_i told
      cases h
      exact .of_noticed t.permit live settled (Bool.and_eq_true_iff.mp told).1
    · rename_i unnoticed
      split at h
      · rename_i past
        cases h
        exact .resume (.inr ⟨due, past, stage⟩) (by simp_all)
      · cases h
  next stage =>
    obtain ⟨told, made⟩ := Option.ite_none_right_eq_some.mp h
    cases made
    exact .of_noticed t.permit (by simp [isLive, isOver, stage]) (by simp [isSettling, stage]) told
  next stage =>
    split at h
    · rename_i noticed
      cases h
      exact .of_noticed true (by simp [isLive, isOver, stage]) (by simp [isSettling, stage])
        (Bool.and_eq_true_iff.mp noticed).1
    · rename_i unnoticed
      cases h
      exact .resume (.inl stage) (Bool.eq_false_iff.mpr unnoticed)
  next due established stage =>
    obtain ⟨past, made⟩ := Option.ite_none_right_eq_some.mp h
    cases made
    exact .settle stage past
  next stage =>
    obtain ⟨told, made⟩ := Option.ite_none_right_eq_some.mp h
    cases made
    exact .quit t.permit (by simp [isLive, isOver, stage]) (by simp [isSettling, stage]) told
      (.inr stage)
  next => cases h
  next => cases h

end stepped

section step
variable {now : Nat} {heed : Bool} {t after : Task} {e : Effect}

/-- What is left to do after a step was left before, or is a part of the script. -/
theorem step_todo (h : t.step now heed = some (after, e)) :
    ∀ act ∈ after.todo, act ∈ t.todo ∨ act ∈ t.script.run ++ t.script.shutdown := by
  intro act mem
  simp only [List.mem_append]
  cases stepped h with
  | begin | again => exact .inr (.inl mem)
  | quit => exact .inr (.inr mem)
  | exit | finish | resume | settle => exact .inl mem
  | deliver stage todo | crash stage todo | sleep stage todo | park stage todo =>
    exact .inl (todo ▸ List.mem_cons_of_mem _ mem)
  | pass permit tunnelUp stage todo => exact .inl (todo ▸ List.mem_cons_of_mem _ mem)

theorem step_crash {message : String} {tidy : Bool}
    (h : t.step now heed = some (after, .crash message tidy)) :
    Act.crash message ∈ t.todo ∧ tidy = t.script.tidy := by
  cases stepped h with
  | crash stage todo => exact ⟨todo ▸ List.mem_cons_self, rfl⟩
  | pass permit tunnelUp stage todo instant plain => simp at plain

theorem step_spec (h : t.step now heed = some (after, e)) :
    Kept t after ∧ Announces e t.stage after.stage ∧ t.isOver = false := by
  cases stepped h with
  | begin stage | exit stage | again stage | finish stage | settle stage | deliver stage
  | crash stage | sleep stage | park stage =>
    exact ⟨⟨rfl, rfl, rfl⟩, by simp [Announces, stage], by simp [isOver, stage]⟩
  | pass permit tunnelUp stage todo instant plain =>
    refine ⟨⟨rfl, rfl, rfl⟩, ?_, by simp [isOver, stage]⟩
    rcases plain with rfl | rfl | rfl <;> simp [Announces, stage]
  | quit permit live =>
    simp only [isLive, Bool.and_eq_true, decide_eq_true_eq, Bool.not_eq_true'] at live
    exact ⟨⟨rfl, rfl, rfl⟩, by simp [Announces, shutDown, live.1], live.2⟩
  | resume waited =>
    refine ⟨⟨rfl, rfl, rfl⟩, ?_⟩
    rcases waited with stage | ⟨due, -, stage⟩ <;> simp [Announces, isOver, stage]

theorem step_hasCrashed (h : t.step now heed = some (after, e))
    (crashed : after.hasCrashed = true) :
    ∃ message, Act.crash message ∈ t.todo := by
  obtain ⟨-, announced, -⟩ := step_spec h
  unfold hasCrashed at crashed
  split at crashed
  · rename_i message stage
    cases e with
    | crash message tidy => exact ⟨message, (step_crash h).1⟩
    | _ => simp [Announces, stage] at announced
  · cases crashed

end step

end Task

end TunnelSoak.Controller
