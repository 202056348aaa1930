import TunnelSoak.Proofs.Soak.Transition
import TunnelSoak.Soak.Run

/-! From moves to runs. A run that is carried out one way or another comes only to
reachable states, and where every move uses up something of which there is a bounded
amount, every way of carrying it out comes to an end. -/
namespace TunnelSoak.Soak

open Controller (Task)

variable {setup : Setup} {s next : Soak}

def replay (setup : Setup) (s : Soak) : List Move → Option Soak
  | [] => some s
  | move :: moves => (s.step setup move).bind fun next => replay setup next moves

theorem Reachable.replay {moves : List Move} (reach : Reachable setup s)
    (h : replay setup s moves = some next) : Reachable setup next := by
  induction moves generalizing s with
  | nil =>
    cases h
    exact reach
  | cons move moves ih =>
    obtain ⟨mid, stepped, rest⟩ := Option.bind_eq_some_iff.mp h
    exact ih (reach.step move stepped) rest

theorem isOver_cases (ended : s.isOver = true) :
    (∃ result, s.stage = .over result) ∨ ∃ message, s.stage = .panicked message := by
  unfold isOver at ended
  split at ended
  · exact .inl ⟨_, ‹_›⟩
  · exact .inr ⟨_, ‹_›⟩
  · cases ended

theorem proceed_step {turn after : Turn} (h : s.proceed setup turn = some (after, next)) :
    ∃ move, s.step setup move = some next := by
  obtain ⟨⟨_, move⟩, -, made⟩ := List.exists_of_findSome?_eq_some h
  obtain ⟨state, stepped, same⟩ := Option.map_eq_some_iff.mp made
  cases same
  exact ⟨move, stepped⟩

theorem Reachable.runFrom {fuel : Nat} {turn : Turn} (reach : Reachable setup s)
    (h : runFrom setup fuel turn s = some next) : Reachable setup next ∧ next.isOver = true := by
  induction fuel generalizing s turn with
  | zero => cases h
  | succ fuel ih =>
    unfold Soak.runFrom at h
    split at h
    · rename_i ended
      cases h
      exact ⟨reach, ended⟩
    · split at h
      · rename_i proceeded
        obtain ⟨move, stepped⟩ := proceed_step proceeded
        exact ih (reach.step move stepped) h
      · cases h

theorem isIdle_iff : s.isIdle setup = true ↔
    (∀ move ∈ loopServices, s.isReady move = false) ∧ s.join setup = none ∧
      ∀ t ∈ s.rig.tasks, t.step s.rig.now true = none := by
  simp only [isIdle, Bool.and_eq_true, List.all_eq_true, Bool.not_eq_true',
    Option.isNone_iff_eq_none, and_assoc]

theorem mem_agenda_loop {move : Move} (mem : move ∈ loopMoves) (turn : Turn) :
    (Turn.loop, move) ∈ s.agenda turn := by
  cases turn <;> simp [agenda, mem]

theorem mem_agenda_act {t : Task} (mem : t ∈ s.rig.tasks) (turn : Turn) :
    (Turn.controllers, Move.act t.id true) ∈ s.agenda turn := by
  have listed : Move.act t.id true ∈ s.controllerMoves := List.mem_map.mpr ⟨t, mem, rfl⟩
  cases turn <;> simp [agenda, listed]

theorem mem_agenda_elapse (turn : Turn) : (Turn.loop, Move.elapse) ∈ s.agenda turn := by
  simp [agenda]

theorem step_isSome_of_ready {move : Move} (ready : s.isReady move = true) :
    (s.step setup move).isSome = true := by
  cases move with
  | tick =>
    rw [step, if_pos ready]
    split
    · rfl
    · split <;> rfl
  | deadline | reconnect | restart =>
    rw [step, if_pos ready]
    rfl
  | join | act | elapse => cases ready

section stuck
variable {turn : Turn} (stuck : s.proceed setup turn = none)
include stuck

theorem step_eq_none {after : Turn} {move : Move} (mem : (after, move) ∈ s.agenda turn) :
    s.step setup move = none :=
  Option.map_eq_none_iff.mp (List.findSome?_eq_none_iff.mp stuck _ mem)

theorem unready_of_stuck : ∀ move ∈ loopServices, s.isReady move = false := by
  intro move mem
  have none := step_eq_none stuck (mem_agenda_loop (List.mem_cons_of_mem _ mem) turn)
  apply Bool.eq_false_iff.mpr
  intro ready
  have serviced : (s.step setup move).isSome = true := step_isSome_of_ready ready
  rw [none] at serviced
  cases serviced

theorem idle_of_stuck (sup : s.Supervised) : s.isIdle setup = true ∧ s.dues = [] := by
  have joining : s.join setup = none :=
    step_eq_none stuck (mem_agenda_loop List.mem_cons_self turn)
  have waiting : ∀ t ∈ s.rig.tasks, t.step s.rig.now true = none := by
    intro t mem
    have none := step_eq_none stuck (mem_agenda_act mem turn)
    rcases sup.tasks with vacant | ⟨other, sole⟩
    · simp [vacant] at mem
    · rw [sole, List.mem_singleton] at mem
      subst mem
      cases stepped : t.step s.rig.now true with
      | none => rfl
      | some result =>
        have made := (Rig.stepTask_sole setup.coin sole t.id true).mpr ⟨rfl, _, _, stepped, rfl⟩
        simp [step, made] at none
  have idle : s.isIdle setup = true :=
    isIdle_iff.mpr ⟨unready_of_stuck stuck, joining, waiting⟩
  have elapse : s.step setup .elapse = none := step_eq_none stuck (mem_agenda_elapse turn)
  exact ⟨idle, by simpa [step, idle] using elapse⟩

end stuck

section busy
variable {t : Task} (sole : s.rig.tasks = [t])
include sole

theorem busy_of_step (acts : (t.step s.rig.now true).isSome = true) : s.isIdle setup = false := by
  apply Bool.eq_false_iff.mpr
  intro idle
  obtain ⟨-, -, still⟩ := isIdle_iff.mp idle
  rw [still t (sole ▸ List.mem_singleton_self t)] at acts
  cases acts

theorem busy_of_over (ended : t.isOver = true)
    (stopping : s.stage = .restarting t.id ∨ ∃ outcome, s.stage = .closing t.id outcome) :
    s.isIdle setup = false := by
  obtain ⟨stopped, rig, joined⟩ := Rig.exists_join sole ended
  apply Bool.eq_false_iff.mpr
  intro idle
  obtain ⟨-, waits, -⟩ := isIdle_iff.mp idle
  rcases stopping with stage | ⟨outcome, stage⟩ <;> simp [join, stage, joined] at waits

end busy

/-- What bounds the moves that can still be made: it shrinks at every move, and until the
run is over there is something to do or to wait for. -/
structure Bounded (setup : Setup) (bound : Soak → Nat → Prop) : Prop where
  shrinks : ∀ s m move next, Reachable setup s → bound s m → s.step setup move = some next →
    ∃ n < m, bound next n
  goes_on : ∀ s m, Reachable setup s → bound s m → s.isOver = false →
    s.isIdle setup = false ∨ s.dues ≠ []

namespace Bounded
variable {bound : Soak → Nat → Prop} (bounded : Bounded setup bound) {m : Nat}
include bounded

theorem replay_length (reach : Reachable setup s) (within : bound s m) {moves : List Move}
    (h : replay setup s moves = some next) : moves.length ≤ m := by
  induction moves generalizing s m with
  | nil => exact Nat.zero_le _
  | cons move moves ih =>
    obtain ⟨mid, stepped, rest⟩ := Option.bind_eq_some_iff.mp h
    obtain ⟨n, less, within⟩ := bounded.shrinks s m move mid reach within stepped
    exact Nat.succ_le_of_lt (Nat.lt_of_le_of_lt (ih (reach.step move stepped) within rest) less)

theorem proceeds (reach : Reachable setup s) (within : bound s m) (going : s.isOver = false)
    (turn : Turn) : ∃ after next, s.proceed setup turn = some (after, next) := by
  cases proceeded : s.proceed setup turn with
  | some result => exact ⟨_, _, rfl⟩
  | none =>
    obtain ⟨idle, nothing⟩ := idle_of_stuck proceeded reach.supervised
    rcases bounded.goes_on s m reach within going with busy | due
    · rw [idle] at busy
      cases busy
    · exact absurd nothing due

theorem runFrom_ends (reach : Reachable setup s) (within : bound s m) {fuel : Nat}
    (enough : m < fuel) (turn : Turn) :
    ∃ final, runFrom setup fuel turn s = some final ∧ Reachable setup final ∧
      final.isOver = true := by
  induction fuel generalizing s m turn with
  | zero => exact absurd enough (Nat.not_lt_zero m)
  | succ fuel ih =>
    unfold Soak.runFrom
    cases ended : s.isOver with
    | true => exact ⟨s, rfl, reach, ended⟩
    | false =>
      obtain ⟨after, next, proceeded⟩ := bounded.proceeds reach within ended turn
      obtain ⟨move, stepped⟩ := proceed_step proceeded
      obtain ⟨n, less, within⟩ := bounded.shrinks s m move next reach within stepped
      simp only [proceeded]
      have left : n < fuel := Nat.lt_of_lt_of_le less (Nat.le_of_lt_succ enough)
      exact ih (reach.step move stepped) within left after

end Bounded

end TunnelSoak.Soak
