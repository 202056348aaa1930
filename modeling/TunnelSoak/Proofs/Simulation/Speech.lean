import TunnelSoak.Proofs.Rig.Voices
import TunnelSoak.Proofs.Simulation.Stance

/-! What the simulated controller says: two notices for each tunnel, one as it comes up and one
when it is gone, and at the end of its life the farewell. What it has counted and not said yet,
and what it was asked for and has not done yet, are its loose ends. -/
namespace TunnelSoak.Simulation

open Controller (Task Act Effect)
open History

/-- The two notices of a tunnel for each that is gone, and the first of them for one that is up. -/
def speech (gone : Nat) (up : Bool) : List (List UInt8) :=
  (List.replicate gone [tunnelsNotice 1, tunnelsNotice 0]).flatten ++
    if up then [tunnelsNotice 1] else []

def farewell : List (List UInt8) := [peakNotice, meekPeakNotice]

theorem speech_report (gone : Nat) : speech gone false ++ [tunnelsNotice 1] = speech gone true := by
  simp [speech]

theorem speech_retract (gone : Nat) :
    speech gone true ++ [tunnelsNotice 0] = speech (gone + 1) false := by
  simp [speech, List.replicate_succ']

theorem mem_speech {gone : Nat} {up : Bool} {notice : List UInt8} (said : notice ∈ speech gone up) :
    notice = tunnelsNotice 1 ∨ notice = tunnelsNotice 0 := by
  unfold speech at said
  rw [List.mem_append, List.mem_flatten] at said
  rcases said with ⟨pair, pairs, mem⟩ | mem
  · rw [List.eq_of_mem_replicate pairs] at mem
    simpa using mem
  · split at mem
    · exact .inl (List.mem_singleton.mp mem)
    · cases mem

def vocabulary : List (List UInt8) := tunnelsNotice 1 :: tunnelsNotice 0 :: farewell

theorem vocabulary_nodup : vocabulary.Nodup := by
  decide +kernel

theorem peakMessage_farewell :
    ∀ notice ∈ farewell, (Notice.peakMessage? notice).isSome = true := by
  decide +kernel

theorem tunnelsNotice_ne : tunnelsNotice 1 ≠ tunnelsNotice 0 :=
  fun same => (List.nodup_cons.mp vocabulary_nodup).1 (same ▸ List.mem_cons_self)

theorem tunnelsNotice_notin_farewell :
    tunnelsNotice 1 ∉ farewell ∧ tunnelsNotice 0 ∉ farewell := by
  obtain ⟨first, second⟩ := List.nodup_cons.mp vocabulary_nodup
  exact ⟨fun mem => first (List.mem_cons_of_mem _ mem), (List.nodup_cons.mp second).1⟩

theorem speech_disjoint {gone : Nat} {up : Bool} {notice : List UInt8}
    (said : notice ∈ speech gone up) : notice ∉ farewell := by
  rcases mem_speech said with rfl | rfl
  · exact tunnelsNotice_notin_farewell.1
  · exact tunnelsNotice_notin_farewell.2

theorem establishes_farewell : ∀ notice ∈ farewell, Notice.establishes notice = false := by
  simp [farewell, establishes_peakNotice, establishes_meekPeakNotice]

theorem count_farewell : ∀ notice ∈ farewell, farewell.count notice = 1 := by
  decide +kernel

theorem establishes_vocabulary :
    ∀ notice ∈ vocabulary, Notice.establishes notice = (notice == tunnelsNotice 1) := by
  decide +kernel

theorem countP_establishes {notices : List (List UInt8)}
    (known : ∀ notice ∈ notices, notice ∈ vocabulary) :
    notices.countP Notice.establishes = notices.count (tunnelsNotice 1) := by
  apply List.countP_congr
  intro notice mem
  rw [establishes_vocabulary notice (known notice mem)]

/-- A whole life: tunnels that come and go, perhaps one that stays, and the farewell. -/
def Life (word : List (List UInt8)) : Prop := ∃ gone up, word = speech gone up ++ farewell

/-- A controller that is not there any more has said all that it had to say, or never began. -/
def Finished (h : History) (id : Nat) : Prop :=
  ∃ gone up, emittedBy id h = speech gone up ++ if id ∈ exited h then farewell else []

theorem Finished.spoken {h : History} {id : Nat} (finished : Finished h id) :
    (∃ word, Life word ∧ emittedBy id h <+: word) ∧
      (id ∈ exited h → farewell <:+ emittedBy id h ∧
        ∀ notice ∈ farewell, (emittedBy id h).count notice = 1) ∧
      (id ∉ exited h → ∀ notice ∈ farewell, notice ∉ emittedBy id h) := by
  obtain ⟨gone, up, said⟩ := finished
  rw [said]
  split
  · rename_i left
    refine ⟨⟨_, ⟨gone, up, rfl⟩, List.prefix_refl _⟩, fun _ => ⟨List.suffix_append _ _, ?_⟩,
      fun stays => absurd left stays⟩
    intro notice mem
    have unsaid : (speech gone up).count notice = 0 :=
      List.count_eq_zero.mpr fun said => speech_disjoint said mem
    rw [List.count_append, unsaid, count_farewell notice mem]
  · rename_i stays
    rw [List.append_nil]
    exact ⟨⟨_, ⟨gone, up, rfl⟩, List.prefix_append _ _⟩, fun left => absurd left stays,
      fun _ notice mem said => speech_disjoint said mem⟩

/-- What a controller has begun and not brought to its end. -/
structure LooseEnds where
  /-- A tunnel that is counted and not yet reported. -/
  raised : Nat := 0
  /-- A termination that is counted and not yet reported. -/
  lowered : Nat := 0
  /-- A tunnel that is reported as up. -/
  up : Nat := 0
  /-- A tunnel that may still come, since none is reported as up. -/
  spare : Nat := 0
  /-- Requests to terminate that are not yet carried out. -/
  owed : Nat := 0

structure LooseEnds.After (ends : LooseEnds) (e : Effect) (later : LooseEnds) : Prop where
  raised : later.raised + e.notices.count (tunnelsNotice 1) =
    ends.raised + if e = .raise then 1 else 0
  lowered : later.lowered + e.notices.count (tunnelsNotice 0) =
    ends.lowered + if e = .lower then 1 else 0
  up : later.up + e.notices.count (tunnelsNotice 0) ≤
    ends.up + e.notices.count (tunnelsNotice 1)
  spare : later.spare + e.notices.count (tunnelsNotice 1) ≤
    ends.spare + e.notices.count (tunnelsNotice 0)
  owed : later.owed + (if e = .lower then 1 else 0) ≤ ends.owed

/-- The farewell adds no loose ends, since its notices are not those of a tunnel. -/
theorem after_farewell {notice : List UInt8} (mem : notice ∈ farewell) :
    ({} : LooseEnds).After (.deliver notice) {} := by
  obtain ⟨one, zero⟩ := tunnelsNotice_notin_farewell
  have first : [notice].count (tunnelsNotice 1) = 0 := by
    simp only [List.count_eq_zero, List.mem_singleton]
    exact fun same => one (same ▸ mem)
  have second : [notice].count (tunnelsNotice 0) = 0 := by
    simp only [List.count_eq_zero, List.mem_singleton]
    exact fun same => zero (same ▸ mem)
  refine ⟨?_, ?_, ?_, ?_, Nat.le_refl 0⟩ <;>
    simp [Effect.notices, first, second]

theorem after_silence {e : Effect} (silent : e.notices = []) (raises : e ≠ .raise)
    (lowers : e ≠ .lower) : ({} : LooseEnds).After e {} := by
  constructor <;> simp [silent, raises, lowers]

/-- The controller shuts down, having said so much of its farewell. -/
inductive Departing (said : List (List UInt8)) (t : Task) : Prop
  | leaving (stage : t.stage = .ready) (shuttingDown : t.shuttingDown = true)
    (todo : t.todo = .abandon :: farewell.map Act.emit) (unsaid : said = [])
  | bidding (rest : List (List UInt8)) (stage : t.stage = .ready)
    (shuttingDown : t.shuttingDown = true) (todo : t.todo = rest.map Act.emit)
    (split : said ++ rest = farewell)

variable {sim : Simulation}

theorem departing_shutDown {t : Task} (script : t.script = sim.cycle) (permit : Bool) :
    Departing [] { t.shutDown with permit } := by
  refine .leaving rfl rfl ?_ rfl
  change t.script.shutdown = _
  rw [script]
  rfl

theorem Departing.step {said : List (List UInt8)} {t mid : Task} {now : Nat} {heed : Bool}
    {e : Effect} (departing : Departing said t) (h : t.step now heed = some (mid, e)) :
    (e = .exit ∧ mid.stage = .exited ∧ said = farewell) ∨
      ((e = .none ∨ ∃ notice ∈ farewell, e = .deliver notice) ∧ mid.stage = .ready ∧
        Departing (said ++ e.notices) mid) := by
  unfold Task.step at h
  cases departing with
  | leaving stage shuttingDown todo unsaid =>
    simp only [stage, todo, Task.perform] at h
    cases h
    subst unsaid
    exact .inr ⟨.inl rfl, rfl, .bidding farewell rfl shuttingDown rfl rfl⟩
  | bidding rest stage shuttingDown todo split =>
    cases rest with
    | nil =>
      simp only [stage, todo, List.map_nil, Task.endPart, shuttingDown, if_true] at h
      cases h
      exact .inl ⟨rfl, rfl, (List.append_nil said).symm.trans split⟩
    | cons notice rest =>
      simp only [stage, todo, List.map_cons, Task.perform] at h
      cases h
      have mem : notice ∈ farewell :=
        split ▸ List.mem_append_right said List.mem_cons_self
      refine .inr ⟨.inr ⟨notice, mem, rfl⟩, rfl, .bidding rest rfl shuttingDown rfl ?_⟩
      exact (List.append_assoc said [notice] rest).trans split

theorem Departing.stage {said : List (List UInt8)} {t : Task} (departing : Departing said t) :
    t.stage = .ready := by
  cases departing with
  | leaving stage => exact stage
  | bidding rest stage => exact stage

theorem Departing.carry {said : List (List UInt8)} {t after : Task} (departing : Departing said t)
    (stage : after.stage = t.stage) (shuttingDown : after.shuttingDown = t.shuttingDown)
    (todo : after.todo = t.todo) : Departing said after := by
  cases departing with
  | leaving ready shuts acts unsaid =>
    exact .leaving (stage.trans ready) (shuttingDown.trans shuts) (todo.trans acts) unsaid
  | bidding rest ready shuts acts split =>
    exact .bidding rest (stage.trans ready) (shuttingDown.trans shuts) (todo.trans acts) split

end TunnelSoak.Simulation
