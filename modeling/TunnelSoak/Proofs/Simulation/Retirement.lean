import TunnelSoak.Proofs.Simulation.Cycle

/-! The simulated controller once it is cancelled. Wherever it is in its cycle it has only
so many acts left, establishes no tunnel any more, and waits for nothing but the end
of a settle delay that has begun. -/
namespace TunnelSoak.Simulation

open Controller (Task Act)

def Quiet : Act → Prop
  | .abandon => True
  | .emit notice => Notice.establishes notice = false
  | _ => False

variable (sim : Simulation) (setup : Setup)

/-- A cancelled controller, the most acts and waits that it has `left`, and the time `till`
which it takes. -/
inductive Retiring (now : Nat) : Task → (left till : Nat) → Prop
  | early (point : Point) {id k : Nat} (start : point.rank ≤ 4)
    (begun : now = k * (sim.pace setup).periodMs) (positive : 0 < sim.establishMs) :
    Retiring now (point.task sim (sim.pace setup) id k true) (20 - point.rank) now
  | waiting {id k : Nat} (short : now < sim.establishMs + k * (sim.pace setup).periodMs) :
    Retiring now (Point.waiting.task sim (sim.pace setup) id k true) 15 now
  | settling {id k : Nat} (short : now ≤ (k + 1) * (sim.pace setup).periodMs) :
    Retiring now (Point.settling.task sim (sim.pace setup) id k true)
      (if now < (k + 1) * (sim.pace setup).periodMs then 13 else 12)
      ((k + 1) * (sim.pace setup).periodMs)
  | late (point : Point) {id : Nat} (k : Nat) (posted : point.posted = true) :
    Retiring now (point.task sim (sim.pace setup) id k true) (20 - point.rank) now
  | quitting {t : Task} (stage : t.stage = .ready) (shuttingDown : t.shuttingDown = true)
    (quiet : ∀ act ∈ t.todo, Quiet act) : Retiring now t (t.todo.length + 1) now
  | exited {t : Task} (stage : t.stage = .exited) : Retiring now t 0 now

variable {sim setup} {rig next : Rig} {t : Task} {now left till : Nat}

theorem Retiring.shutDown (stage : t.stage = .ready) (shuttingDown : t.shuttingDown = true)
    (todo : t.todo = sim.cycle.shutdown) : Retiring sim setup now t 4 now := by
  have quits : (∀ act ∈ t.todo, Quiet act) → Retiring sim setup now t _ now :=
    .quitting stage shuttingDown
  rw [todo] at quits
  apply quits
  simp [cycle, Quiet, establishes_peakNotice, establishes_meekPeakNotice]

structure Retired (sim : Simulation) (setup : Setup) (rig next : Rig) (t : Task) (left till : Nat) :
    Prop where
  after : ∃ later fewer, next.tasks = [later] ∧ later.isSettling = false ∧ fewer < left ∧
    Retiring sim setup rig.now later fewer till
  tracker : next.dispatcher.tracker = rig.dispatcher.tracker
  dispatcher : t.isSettling = false → next.dispatcher = rig.dispatcher

theorem Retired.of_quiet (mid : Task) {notice : List UInt8} {fewer : Nat}
    (quiet : Notice.establishes notice = false) (less : fewer < left)
    (retiring : Retiring sim setup rig.now { mid with stage := .ready } fewer till) :
    Retired sim setup rig ((rig.withTask mid).deliver setup.coin mid.id notice) t left till := by
  obtain ⟨tasks, same⟩ := deliver_quiet setup.coin (rig.withTask_tasks mid) quiet
  exact ⟨⟨_, _, tasks, rfl, less, retiring⟩, congrArg Dispatcher.tracker same, fun _ => same⟩

theorem Retiring.act_early {point : Point} {id k other : Nat} {heed : Bool} (start : point.rank ≤ 4)
    (begun : rig.now = k * (sim.pace setup).periodMs) (positive : 0 < sim.establishMs)
    (sole : rig.tasks = [point.task sim (sim.pace setup) id k true])
    (stepped : rig.stepTask setup.coin other heed = some next) :
    Retired sim setup rig next (point.task sim (sim.pace setup) id k true) (20 - point.rank)
      rig.now := by
  obtain ⟨-, mid, e, ran, rfl⟩ := (Rig.stepTask_sole setup.coin sole other heed).mp stepped
  have early (later : Point) (start : later.rank ≤ 4) :
      Retiring sim setup rig.now (later.task sim (sim.pace setup) id k true) (20 - later.rank)
        rig.now := .early later start begun positive
  cases point with
  | asked =>
    cases heed <;> cases ran
    · exact ⟨⟨_, _, rfl, rfl, by decide, early .lowering (by decide)⟩, rfl, fun _ => rfl⟩
    · exact ⟨⟨_, _, rfl, rfl, by decide, .shutDown rfl rfl rfl⟩, rfl, fun _ => rfl⟩
  | woken =>
    cases heed <;> cases ran
    · exact ⟨⟨_, _, rfl, rfl, by decide, early .lowering (by decide)⟩, rfl, fun _ => rfl⟩
    · exact ⟨⟨_, _, rfl, rfl, by decide, .shutDown rfl rfl rfl⟩, rfl, fun _ => rfl⟩
  | lowering =>
    cases ran
    exact ⟨⟨_, _, rfl, rfl, by decide, early .leaving (by decide)⟩, rfl, fun _ => rfl⟩
  | leaving =>
    cases ran
    exact .of_quiet _ establishes_tunnelsNotice_zero (by decide) (early .done (by decide))
  | done | spawned =>
    cases ran
    exact ⟨⟨_, _, rfl, rfl, by decide, early .starting (by decide)⟩, rfl, fun _ => rfl⟩
  | starting =>
    cases heed with
    | true =>
      cases ran
      exact ⟨⟨_, _, rfl, rfl, by decide, .shutDown rfl rfl rfl⟩, rfl, fun _ => rfl⟩
    | false =>
      rw [Point.step_starting sim setup id k _ true false begun rfl,
        if_neg (Nat.ne_of_gt positive)] at ran
      cases ran
      have short : rig.now < sim.establishMs + k * (sim.pace setup).periodMs := by omega
      exact ⟨⟨_, _, rfl, rfl, by decide, .waiting short⟩, rfl, fun _ => rfl⟩
  | waiting | rising | reporting | settling | settled | parked => exact absurd start (by decide)

theorem Retiring.act_waiting {id k other : Nat} {heed : Bool}
    (short : rig.now < sim.establishMs + k * (sim.pace setup).periodMs)
    (sole : rig.tasks = [Point.waiting.task sim (sim.pace setup) id k true])
    (stepped : rig.stepTask setup.coin other heed = some next) :
    Retired sim setup rig next (Point.waiting.task sim (sim.pace setup) id k true) 15 rig.now := by
  obtain ⟨-, mid, e, ran, rfl⟩ := (Rig.stepTask_sole setup.coin sole other heed).mp stepped
  have noticed :
      (heed || decide (rig.now < sim.establishMs + k * (sim.pace setup).periodMs)) = true := by
    simp [short]
  change (if (heed || decide (rig.now < sim.establishMs + k * (sim.pace setup).periodMs)) = true
    then some _ else _) = some (mid, e) at ran
  rw [if_pos noticed] at ran
  cases ran
  exact ⟨⟨_, _, rfl, rfl, by decide, .shutDown rfl rfl rfl⟩, rfl, fun _ => rfl⟩

theorem Retiring.act_settling {id k other : Nat} {heed : Bool}
    (short : rig.now ≤ (k + 1) * (sim.pace setup).periodMs)
    (sole : rig.tasks = [Point.settling.task sim (sim.pace setup) id k true])
    (stepped : rig.stepTask setup.coin other heed = some next) :
    Retired sim setup rig next (Point.settling.task sim (sim.pace setup) id k true)
      (if rig.now < (k + 1) * (sim.pace setup).periodMs then 13 else 12)
      ((k + 1) * (sim.pace setup).periodMs) := by
  obtain ⟨-, mid, e, ran, rfl⟩ := (Rig.stepTask_sole setup.coin sole other heed).mp stepped
  rw [Point.step_settling] at ran
  split at ran
  · rename_i due
    cases ran
    have now : rig.now = (k + 1) * (sim.pace setup).periodMs := Nat.le_antisymm short due
    obtain ⟨tasks, posted⟩ := settle_sole setup.coin (k + 1)
      (rig.withTask_tasks (Point.settled.task sim (sim.pace setup) id k true))
    refine ⟨⟨Point.settled.task sim (sim.pace setup) id k true, 11, tasks, rfl, ?_, ?_⟩, ?_, nofun⟩
    · rw [if_neg (Nat.not_lt_of_le (Nat.le_of_eq now.symm))]
      decide
    · exact now ▸ .late .settled k rfl
    · exact (congrArg Dispatcher.tracker posted).trans (Dispatcher.settle_tracker _ _)
  · cases ran

theorem Retiring.act_late {point : Point} {id k other : Nat} {heed : Bool}
    (posted : point.posted = true)
    (sole : rig.tasks = [point.task sim (sim.pace setup) id k true])
    (stepped : rig.stepTask setup.coin other heed = some next) :
    Retired sim setup rig next (point.task sim (sim.pace setup) id k true) (20 - point.rank)
      rig.now := by
  obtain ⟨-, mid, e, ran, rfl⟩ := (Rig.stepTask_sole setup.coin sole other heed).mp stepped
  cases point with
  | settled =>
    cases heed <;> cases ran
    · exact ⟨⟨_, _, rfl, rfl, by decide, .late .parked k rfl⟩, rfl, fun _ => rfl⟩
    · exact ⟨⟨_, _, rfl, rfl, by decide, .shutDown rfl rfl rfl⟩, rfl, fun _ => rfl⟩
  | parked =>
    cases ran
    exact ⟨⟨_, _, rfl, rfl, by decide, .shutDown rfl rfl rfl⟩, rfl, fun _ => rfl⟩
  | _ => cases posted

theorem Retiring.act_quitting {other : Nat} {heed : Bool} (stage : t.stage = .ready)
    (shuttingDown : t.shuttingDown = true) (quiet : ∀ act ∈ t.todo, Quiet act)
    (sole : rig.tasks = [t]) (stepped : rig.stepTask setup.coin other heed = some next) :
    Retired sim setup rig next t (t.todo.length + 1) rig.now := by
  obtain ⟨-, mid, e, ran, rfl⟩ := (Rig.stepTask_sole setup.coin sole other heed).mp stepped
  cases todo : t.todo with
  | nil =>
    simp only [Task.step, stage, todo, Task.endPart, shuttingDown, if_true] at ran
    cases ran
    exact ⟨⟨_, 0, rfl, rfl, Nat.succ_pos _, .exited rfl⟩, rfl, fun _ => rfl⟩
  | cons act rest =>
    rw [todo] at quiet
    have still : ∀ act ∈ rest, Quiet act := fun x hx => quiet x (List.mem_cons_of_mem _ hx)
    simp only [Task.step, stage, todo] at ran
    cases act with
    | abandon =>
      cases ran
      refine ⟨⟨_, rest.length + 1, rfl, ?_, Nat.lt_succ_self _, .quitting stage shuttingDown still⟩,
        rfl, fun _ => rfl⟩
      simp [Task.isSettling, stage]
    | emit notice =>
      cases ran
      exact .of_quiet { t with todo := rest } (quiet _ List.mem_cons_self)
        (Nat.lt_succ_self _) (.quitting rfl shuttingDown still)
    | _ => exact absurd (quiet _ List.mem_cons_self) id

theorem Retiring.act {id : Nat} {heed : Bool} (sole : rig.tasks = [t])
    (retiring : Retiring sim setup rig.now t left till)
    (stepped : rig.stepTask setup.coin id heed = some next) :
    Retired sim setup rig next t left till := by
  cases retiring with
  | early point start begun positive => exact act_early start begun positive sole stepped
  | waiting short =>
    exact act_waiting short sole stepped
  | settling short => exact act_settling short sole stepped
  | late point k posted => exact act_late posted sole stepped
  | quitting stage shuttingDown quiet => exact act_quitting stage shuttingDown quiet sole stepped
  | exited stage =>
    obtain ⟨-, mid, e, ran, rfl⟩ := (Rig.stepTask_sole setup.coin sole id heed).mp stepped
    simp [Task.step, stage] at ran

theorem Retiring.not_crashed (retiring : Retiring sim setup now t left till) (message : String) :
    t.stage ≠ .crashed message := by
  cases retiring with
  | early point => cases point <;> nofun
  | late point => cases point <;> nofun
  | waiting => nofun
  | settling => nofun
  | quitting stage => simp [stage]
  | exited stage => simp [stage]

theorem Retiring.till_of_exited (retiring : Retiring sim setup now t left till)
    (exited : t.stage = .exited) : till = now := by
  cases retiring with
  | settling => cases exited
  | _ => rfl

theorem Retiring.busy (retiring : Retiring sim setup now t left till) :
    t.stage = .exited ∨ (t.step now true).isSome = true ∨
      t.isSettling = true ∧ t.due? = some till ∧ now < till ∧
        ∃ fewer < left, Retiring sim setup till t fewer till := by
  cases retiring with
  | early point start =>
    cases point <;> first | exact .inr (.inl rfl) | exact absurd start (by decide)
  | late point k posted => cases point <;> first | exact .inr (.inl rfl) | cases posted
  | waiting => exact .inr (.inl rfl)
  | @settling id k short =>
    rcases Nat.lt_or_ge now ((k + 1) * (sim.pace setup).periodMs) with early | due
    · refine .inr (.inr ⟨rfl, rfl, early, _, ?_, .settling (Nat.le_refl _)⟩)
      rw [if_pos early, if_neg (Nat.lt_irrefl _)]
      decide
    · refine .inr (.inl ?_)
      rw [Point.step_settling, if_pos due]
      rfl
  | quitting stage =>
    refine .inr (.inl ?_)
    simp only [Task.step, stage]
    split <;> rfl
  | exited stage => exact .inl stage

theorem Point.cancel_task (point : Point) (id k : Nat) :
    (point.task sim (sim.pace setup) id k false).cancel =
      point.task sim (sim.pace setup) id k true := by
  cases point <;> rfl

theorem Point.retiring {point : Point} {id k : Nat}
    (window : point.Window (sim.pace setup) k now)
    (untied : ∀ k, now ≠ sim.establishMs + k * (sim.pace setup).periodMs) :
    ∃ left ≤ 20, Retiring sim setup now (point.task sim (sim.pace setup) id k true) left
      (point.till (sim.pace setup) k now) := by
  have apart := untied k
  have positive (begun : now = k * (sim.pace setup).periodMs) : 0 < sim.establishMs := by omega
  have early {point : Point} (start : point.rank ≤ 4)
      (begun : now = k * (sim.pace setup).periodMs) :
      Retiring sim setup now (point.task sim (sim.pace setup) id k true) (20 - point.rank) now :=
    .early point start begun (positive begun)
  cases point with
  | asked | woken | lowering | leaving | done | spawned | starting =>
    exact ⟨_, Nat.sub_le _ _, early (by decide) window⟩
  | waiting =>
    have short : now ≤ sim.establishMs + k * (sim.pace setup).periodMs := window.2
    exact ⟨15, by decide, .waiting (by omega)⟩
  | rising | reporting => exact absurd window apart
  | settling =>
    refine ⟨_, ?_, .settling window.2⟩
    split <;> decide
  | settled => exact ⟨_, Nat.sub_le _ _, .late .settled k rfl⟩
  | parked => exact ⟨_, Nat.sub_le _ _, .late .parked k rfl⟩

end TunnelSoak.Simulation
