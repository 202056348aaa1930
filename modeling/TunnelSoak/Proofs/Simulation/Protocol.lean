import TunnelSoak.Proofs.Simulation.Rehearsal

/-! The protocol of the simulated controller. What its instances say, what the factory has
counted and what the dispatcher has counted are kept by three parties, and all of it agrees
whenever they wait; and they always come to wait. -/
namespace TunnelSoak.Simulation

open Controller (Task)
open History
open Rig (Operation Outcome)

variable {coin : Nat → Bool} {sim : Simulation} {mode : Mode} {settleMs granted : Nat}
  {rig next : Rig} {t : Task}

/-- What the parties agree on when all of them wait. -/
structure Protocol (granted : Nat) (rig : Rig) : Prop where
  spoken : ∀ id, ∃ word, Life word ∧ emittedBy id rig.trace <+: word
  /-- Who has exited has said farewell once and last, and nobody else has begun to. -/
  parting : ∀ id ∈ exited rig.trace, farewell <:+ emittedBy id rig.trace ∧
    ∀ notice ∈ farewell, (emittedBy id rig.trace).count notice = 1
  staying : ∀ id, id ∉ exited rig.trace → ∀ notice ∈ farewell, notice ∉ emittedBy id rig.trace
  surfaced : ∀ after before e id notice, rig.trace = after ++ e :: before →
    e.event = .noticeEmitted id notice → notice ∈ farewell → ∃ message later,
      after = later ++ [⟨e.time, .dispatched .surfaced⟩, ⟨e.time, .diagnostic message⟩]
  /-- The factory and the dispatcher have counted what was said. -/
  established : rig.counters.established = emittedTimes (tunnelsNotice 1) rig.trace
  tracked : rig.dispatcher.tracker.established = emittedTimes (tunnelsNotice 1) rig.trace
  terminations : rig.counters.terminations = emittedTimes (tunnelsNotice 0) rig.trace
  bounds : rig.counters.terminations ≤ rig.counters.established ∧
    rig.counters.established ≤ rig.counters.terminations + rig.counters.constructed
  granted : rig.counters.terminations ≤ granted
  live : rig.counters.live = if rig.lifecycle.phase = .running then 1 else 0
  peak : rig.counters.peakLive ≤ 1

section run

/-- A controller that is not told to stop comes to wait, since with every act it is nearer to
where it waits for time to pass or for a request. -/
theorem exists_runTasks_posture {point : Point} {id due established : Nat} {permit : Bool}
    (unasked : point.hasPermit = false)
    (sole : rig.tasks = [point.posture sim id due established false permit]) :
    ∃ fuel next, rig.runTasks coin fuel = some next := by
  induction bound : point.distance permit using Nat.strongRecOn
    generalizing rig point due established permit with
  | ind distance ih =>
    cases stepped : rig.stepAny coin with
    | none =>
      refine ⟨1, rig, ?_⟩
      unfold Rig.runTasks
      rw [stepped]
    | some next =>
      have acted := stepped
      rw [Rig.stepAny_sole sole] at acted
      obtain ⟨mid, e, ran, ⟨results, after, handled, tasks, -⟩, -⟩ := Rig.worked coin sole acted
      cases Point.step_posture unasked ran with
      | along due established unasked stride =>
        obtain ⟨last, due, established, rfl, unasked, -, -, nearer⟩ :=
          stride.handled unasked handled
        obtain ⟨fuel, rest, ran⟩ := ih _ (bound ▸ nearer) unasked tasks rfl
        refine ⟨fuel + 1, rest, ?_⟩
        unfold Rig.runTasks
        rw [stepped]
        exact ran
      | out departing told => cases (Task.step_spec ran).1.cancelled.symm.trans told

theorem Staged.exists_runTasks (staged : Staged sim granted false rig) :
    ∃ fuel next, rig.runTasks coin fuel = some next := by
  cases staged.company with
  | vacant vacant =>
    refine ⟨1, rig, ?_⟩
    unfold Rig.runTasks Rig.stepAny
    rw [vacant]
    rfl
  | sole sole footing exits untold =>
    obtain ⟨point, gone, id, due, established, permit, unasked, rfl, -, -⟩ := footing.cycles untold
    exact exists_runTasks_posture unasked sole

end run

/-- While all of them wait, nothing is counted that is not said, nobody is in the middle of a
farewell, and a controller that is there is at work. -/
theorem Staged.still (staged : Staged sim granted false rig) (waits : rig.stepAny coin = none) :
    (∃ ends, Books granted ends rig ∧ ends.raised = 0 ∧ ends.lowered = 0) ∧
      (∀ id, Finished rig.trace id) ∧ ∀ t ∈ rig.tasks, t.isLive = true := by
  cases staged.company with
  | vacant vacant books others =>
    refine ⟨⟨_, books, rfl, rfl⟩, others, ?_⟩
    rw [vacant]
    exact List.forall_mem_nil _
  | @sole t _ sole footing exits untold books others =>
    obtain ⟨raised, lowered, live, gone, up, said⟩ :=
      footing.waiting untold (Rig.step_of_waits sole waits)
    have stays : t.id ∉ exited rig.trace := by
      intro left
      have ended := Task.isOver_of_exited (exits.mp left)
      simp [Task.isLive, ended] at live
    refine ⟨⟨_, books, raised, lowered⟩, ?_, ?_⟩
    · intro id
      by_cases own : t.id = id
      · subst own
        refine ⟨gone, up, ?_⟩
        rw [said, if_neg stays, List.append_nil]
      · exact others id own
    · rw [sole, List.forall_mem_singleton]
      exact live

theorem Staged.protocol (staged : Staged sim granted false rig) (kept : rig.Kept)
    (waits : rig.stepAny coin = none) : Protocol granted rig := by
  obtain ⟨⟨ends, books, raised, lowered⟩, finished, live⟩ := staged.still waits
  obtain ⟨established, terminations, up, spare, owed⟩ := books
  rw [raised, Nat.add_zero] at established
  rw [lowered, Nat.add_zero] at terminations
  have peak := kept.attended.peak
  rw [staged.strays] at peak
  refine
    { spoken := fun id => (finished id).spoken.1
      parting := fun id => (finished id).spoken.2.1
      staying := fun id => (finished id).spoken.2.2
      surfaced := ?_, established, tracked := staged.tracked, terminations
      bounds := by omega, granted := by omega, live := ?_, peak }
  · intro after before e id notice trace emitted mem
    obtain ⟨message, peak⟩ := Option.isSome_iff_exists.mp (peakMessage_farewell notice mem)
    have surfacing := staged.surfacing
    rw [trace] at surfacing
    exact ⟨message, surfacing.at emitted peak⟩
  · rw [kept.attended.live, staged.strays]
    cases kept.managed with
    | stopped phase unheld vacant => simp [phase, vacant]
    | @running t phase held sole =>
      rw [sole, List.forall_mem_singleton] at live
      simp [phase, sole, live]

structure Rehearsed (coin : Nat → Bool) (sim : Simulation) (mode : Mode) (settleMs granted : Nat)
    (rig : Rig) : Prop where
  waits : ∃ fuel next, rig.runTasks coin fuel = some next
  protocol : ∀ fuel next, rig.runTasks coin fuel = some next → Protocol granted next
  /-- Operations as they are carried out, each until all wait, are a rehearsal. -/
  executed : ∀ fuel operation outcome next,
    rig.operateAndRun coin sim.plan fuel operation = some (outcome, next) →
      Rehearsal coin sim mode settleMs (granted + outcome.granted) next

theorem Rehearsal.operateAndRun {fuel : Nat} {operation : Operation} {outcome : Outcome}
    (rehearsal : Rehearsal coin sim mode settleMs granted rig)
    (ran : rig.operateAndRun coin sim.plan fuel operation = some (outcome, next)) :
    Rehearsal coin sim mode settleMs (granted + outcome.granted) next := by
  obtain ⟨⟨answer, mid⟩, operated, ran⟩ := Option.bind_eq_some_iff.mp ran
  obtain ⟨later, waited, same⟩ := Option.bind_eq_some_iff.mp ran
  cases same
  have passage := (Rig.Passage.still.runTasks waited).1
  exact (rehearsal.operate (Rig.operates_of_operate operated)).operate (.advance 0 passage)

/-- In any session with simulated controllers all parties come to wait, and then what was said,
what was counted and what was granted agree. -/
theorem rehearsals_keep_protocol (fits : sim.Fits)
    (rehearsal : Rehearsal coin sim mode settleMs granted rig) :
    Rehearsed coin sim mode settleMs granted rig := by
  have staged := rehearsal.staged fits
  refine ⟨staged.exists_runTasks, fun fuel next ran => ?_, fun _ _ _ _ => rehearsal.operateAndRun⟩
  obtain ⟨passage, waits⟩ := Rig.Passage.still.runTasks ran
  exact (staged.passage passage).protocol (passage.kept rehearsal.session.kept) waits

/-- Carry out the operations one after another, each until all wait, and count what is granted. -/
def rehearse (coin : Nat → Bool) (sim : Simulation) (fuel : Nat) :
    Nat → Rig → List Operation → Option (Nat × Rig)
  | granted, rig, [] => some (granted, rig)
  | granted, rig, operation :: operations =>
    (rig.operateAndRun coin sim.plan fuel operation).bind fun done =>
      rehearse coin sim fuel (granted + done.1.granted) done.2 operations

theorem Rehearsal.rehearse {fuel after : Nat} {operations : List Operation}
    (rehearsal : Rehearsal coin sim mode settleMs granted rig)
    (ran : rehearse coin sim fuel granted rig operations = some (after, next)) :
    Rehearsal coin sim mode settleMs after next := by
  induction operations generalizing granted rig with
  | nil =>
    cases ran
    exact rehearsal
  | cons operation operations ih =>
    obtain ⟨done, operated, rest⟩ := Option.bind_eq_some_iff.mp ran
    exact ih (rehearsal.operateAndRun operated) rest

/-- Three requests come while the first tunnel settles, two while the second waits, two while
nobody is there to hear them, and one before the next controller has a tunnel. -/
theorem burst_keeps_protocol : ∃ rig : Rig,
    rig.counters.constructed = 2 ∧ rig.counters.established = 4 ∧ rig.counters.terminations = 3 ∧
      Rehearsed (fun _ => false) { establishMs := 100 } .reconnectTunnel 50 6 rig := by
  obtain ⟨rig, ran, constructed, established, terminations⟩ : ∃ rig,
      rehearse (fun _ => false) { establishMs := 100 } 60 0
        { dispatcher := { mode := .reconnectTunnel, settleMs := 50 } }
        [.start, .advance 120, .terminate 3, .advance 200, .terminate 2, .advance 400, .stop,
          .terminate 2, .start, .terminate 1] = some (6, rig) ∧
      rig.counters.constructed = 2 ∧ rig.counters.established = 4 ∧
      rig.counters.terminations = 3 := ⟨_, rfl, rfl, rfl, rfl⟩
  exact ⟨rig, constructed, established, terminations,
    rehearsals_keep_protocol (by decide) (Rehearsal.new.rehearse ran)⟩

end TunnelSoak.Simulation
