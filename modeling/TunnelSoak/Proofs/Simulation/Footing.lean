import TunnelSoak.Proofs.Simulation.Speech

/-! How the simulated controller stands. Requests to terminate may come in bursts, so one may be
stored at any point at which a tunnel is up, and a cancellation may be noticed wherever the
controller waits. At each point it is known what has been said and which ends are loose. -/
namespace TunnelSoak.Simulation

open Controller (Task Effect)

namespace Point

def reported (point : Point) : Bool := decide (3 ≤ point.place) && decide (point.place ≤ 5)

def raised : Point → Nat
  | reporting => 1
  | _ => 0

def lowered : Point → Nat
  | leaving => 1
  | _ => 0

def looseEnds (permit : Bool) (point : Point) : LooseEnds where
  raised := point.raised
  lowered := point.lowered
  up := point.reported.toNat
  spare := (!point.reported).toNat
  owed := point.heard.toNat + permit.toNat

/-- A bound on the acts until the controller waits: a stored request takes it round again. -/
def distance (permit : Bool) (point : Point) : Nat := 10 - point.rank + 12 * permit.toNat

/-- From one point to a later one: a leg of the cycle, with what becomes of a stored request. -/
inductive Stride : Point → Bool → Effect → Point → Bool → Prop
  | settle (established : Nat) (permit : Bool) :
    Stride settling permit (.settle established) settled permit
  | report (permit : Bool) : Stride reporting permit (.deliver (tunnelsNotice 1)) settled permit
  | retract (permit : Bool) : Stride leaving permit (.deliver (tunnelsNotice 0)) done permit
  | pass {point later : Point} {permit kept : Bool} {e : Effect} (aside : e.dispatches = false)
    (same : later.reported = point.reported)
    (raised : later.raised = point.raised + if e = .raise then 1 else 0)
    (lowered : later.lowered = point.lowered + if e = .lower then 1 else 0)
    (owed : later.heard.toNat + kept.toNat + (if e = .lower then 1 else 0) ≤
      point.heard.toNat + permit.toNat)
    (nearer : later.distance kept < point.distance permit) : Stride point permit e later kept

theorem Stride.after {point later : Point} {permit kept : Bool} {e : Effect}
    (stride : Stride point permit e later kept) :
    (point.looseEnds permit).After e (later.looseEnds kept) := by
  have other := tunnelsNotice_ne
  cases stride with
  | settle =>
    constructor <;> simp [looseEnds, Effect.notices, raised, lowered, reported, place, heard]
  | report =>
    constructor <;>
      simp [looseEnds, Effect.notices, raised, lowered, reported, place, heard, other]
  | retract =>
    constructor <;>
      simp [looseEnds, Effect.notices, raised, lowered, reported, place, heard, other.symm]
  | pass aside same raised lowered owed =>
    constructor <;> simp only [looseEnds, Effect.notices_of_aside aside, List.count_nil, same]
    · exact raised
    · exact lowered
    · exact Nat.le_refl _
    · exact Nat.le_refl _
    · exact owed

end Point

variable {sim : Simulation}

/-- Where an act at a point leads: on to a later point, or to the farewell with nothing left
half told. -/
inductive Striding (sim : Simulation) (id : Nat) (cancelled : Bool) (point : Point)
    (permit : Bool) : Task → Effect → Prop
  | along {later : Point} {kept : Bool} {e : Effect} (due established : Nat)
    (unasked : later.hasPermit = false) (stride : point.Stride permit e later kept) :
    Striding sim id cancelled point permit
      (later.posture sim id due established cancelled kept) e
  | out {t : Task} (departing : Departing [] t) (told : t.cancelled = true)
    (settled : (point.looseEnds permit).After .none {}) :
    Striding sim id cancelled point permit t .none

theorem Point.step_posture {point : Point} {id due established now : Nat}
    {cancelled heed permit : Bool} {mid : Task} {e : Effect} (unasked : point.hasPermit = false)
    (h : (point.posture sim id due established cancelled permit).step now heed = some (mid, e)) :
    Striding sim id cancelled point permit mid e := by
  have out (told : cancelled = true) (kept : Bool)
      (settled : (point.looseEnds permit).After .none {}) :
      Striding sim id cancelled point permit
        { (point.posture sim id due established cancelled permit).shutDown with
          permit := kept } .none :=
    .out (departing_shutDown rfl kept) told settled
  have on (e : Effect) (later : Point) (kept : Bool) (due : Nat)
      (unasked : later.hasPermit = false) (stride : point.Stride permit e later kept) :
      Striding sim id cancelled point permit
        (later.posture sim id due established cancelled kept) e :=
    .along due established unasked stride
  have even (none : point.raised = 0 ∧ point.lowered = 0) :
      (point.looseEnds permit).After .none {} :=
    ⟨none.1.symm, none.2.symm, Nat.zero_le _, Nat.zero_le _, Nat.zero_le _⟩
  have near {n m : Nat} (h : n < m) : n + 12 * permit.toNat < m + 12 * permit.toNat :=
    Nat.add_lt_add_right h _
  have keep (n : Nat) : n + permit.toNat ≤ n + permit.toNat := Nat.le_refl _
  cases point with
  | asked => cases unasked
  | woken =>
    have heard := on .none .lowering permit due rfl
      (.pass rfl rfl rfl rfl (keep 1) (near (by decide)))
    cases cancelled <;> cases heed <;> cases h
    · exact heard
    · exact heard
    · exact heard
    · exact out rfl true (even ⟨rfl, rfl⟩)
  | lowering =>
    have carried : 0 + permit.toNat + 1 ≤ 1 + permit.toNat := by omega
    cases h
    exact on .lower .leaving permit due rfl (.pass rfl rfl rfl rfl carried (near (by decide)))
  | leaving =>
    cases h
    exact on _ .done permit due rfl (.retract permit)
  | done =>
    cases h
    exact on .none .starting permit due rfl (.pass rfl rfl rfl rfl (keep 0) (near (by decide)))
  | spawned =>
    cases h
    exact on .begin .starting permit due rfl (.pass rfl rfl rfl rfl (keep 0) (near (by decide)))
  | starting =>
    have risen := on .none .rising permit due rfl
      (.pass rfl rfl rfl rfl (keep 0) (near (by decide)))
    have wait := on .none .waiting permit (now + sim.establishMs) rfl
      (.pass rfl rfl rfl rfl (keep 0) (near (by decide)))
    rw [step_starting_posture] at h
    split at h
    · rename_i noticed
      cases h
      exact out (Bool.and_eq_true_iff.mp noticed).1 permit (even ⟨rfl, rfl⟩)
    · split at h <;> cases h
      · exact risen
      · exact wait
  | waiting =>
    have risen := on .none .rising permit due rfl
      (.pass rfl rfl rfl rfl (keep 0) (near (by decide)))
    rw [step_waiting_posture] at h
    split at h
    · rename_i noticed
      cases h
      exact out (Bool.and_eq_true_iff.mp noticed).1 permit (even ⟨rfl, rfl⟩)
    · obtain ⟨-, same⟩ := Option.ite_none_right_eq_some.mp h
      cases same
      exact risen
  | rising =>
    cases h
    exact on .raise .reporting permit due rfl (.pass rfl rfl rfl rfl (keep 0) (near (by decide)))
  | reporting =>
    cases h
    exact on _ .settled permit due rfl (.report permit)
  | settling =>
    obtain ⟨-, same⟩ := Option.ite_none_right_eq_some.mp h
    cases same
    exact on _ .settled permit due rfl (.settle established permit)
  | settled =>
    -- a stored request is used up here and takes the controller on without a wait
    have park (unheard : permit = false) := on .none .parked false due rfl
      (.pass rfl rfl rfl rfl (Nat.zero_le _) (by subst unheard; decide))
    have heard (stored : permit = true) := on .none .lowering false due rfl
      (.pass rfl rfl rfl rfl (by subst stored; decide) (by subst stored; decide))
    cases cancelled <;> cases heed <;> cases permit <;> cases h
    · exact park rfl
    · exact heard rfl
    · exact park rfl
    · exact heard rfl
    · exact park rfl
    · exact heard rfl
    · exact out rfl false (even ⟨rfl, rfl⟩)
    · exact out rfl true (even ⟨rfl, rfl⟩)
  | parked =>
    cases cancelled <;> cases h
    exact out rfl permit (even ⟨rfl, rfl⟩)

/-- How a controller stands that has said so much, with its loose ends. -/
inductive Footing (sim : Simulation) : List (List UInt8) → LooseEnds → Task → Prop
  | cycling (point : Point) (gone id due established : Nat) (cancelled permit : Bool)
    (unasked : point.hasPermit = false) :
    Footing sim (speech gone point.reported) (point.looseEnds permit)
      (point.posture sim id due established cancelled permit)
  | departing {t : Task} {said : List (List UInt8)} (gone : Nat) (up : Bool)
    (told : t.cancelled = true) (departing : Departing said t) :
    Footing sim (speech gone up ++ said) {} t
  | gone {t : Task} (gone : Nat) (up : Bool) (told : t.cancelled = true)
    (stage : t.stage = .exited) : Footing sim (speech gone up ++ farewell) {} t

section handled
variable {coin : Nat → Bool} {d later : Dispatcher} {now : Nat} {results : List Dispatched}
  {mid after : Task} {e : Effect}

/-- Whatever the dispatcher makes of a stride, the controller is at a point of the same kind:
a report that settles only waits for what it would have gone on with at once. -/
theorem Point.Stride.handled {point next : Point} {permit kept cancelled : Bool}
    {id due established : Nat} (stride : point.Stride permit e next kept)
    (unasked : next.hasPermit = false)
    (handled : Rig.Handled coin d now (next.posture sim id due established cancelled kept) e later
      results after) :
    ∃ (last : Point) (due established : Nat),
      after = last.posture sim id due established cancelled kept ∧ last.hasPermit = false ∧
        last.reported = next.reported ∧ last.looseEnds kept = next.looseEnds kept ∧
        last.distance kept < point.distance permit := by
  have near {n m : Nat} (h : n < m) : n + 12 * kept.toNat < m + 12 * kept.toNat :=
    Nat.add_lt_add_right h _
  cases stride with
  | settle =>
    cases handled with
    | settled => exact ⟨.settled, due, established, rfl, rfl, rfl, rfl, near (by decide)⟩
    | aside aside => cases aside
  | report =>
    cases handled with
    | quiet quiet => cases establishes_tunnelsNotice_one.symm.trans quiet
    | atOnce => exact ⟨.settled, due, established, rfl, rfl, rfl, rfl, near (by decide)⟩
    | delayed => exact ⟨.settling, _, _, rfl, rfl, rfl, rfl, near (by decide)⟩
    | aside aside => cases aside
  | retract =>
    cases handled with
    | quiet => exact ⟨.done, due, established, rfl, rfl, rfl, rfl, near (by decide)⟩
    | atOnce establishes | delayed establishes =>
      cases establishes_tunnelsNotice_zero.symm.trans establishes
    | aside aside => cases aside
  | pass aside same raised lowered owed nearer =>
    cases handled with
    | aside => exact ⟨next, due, established, rfl, unasked, rfl, rfl, nearer⟩
    | _ => cases aside

theorem Point.Stride.said {point next : Point} {permit kept : Bool}
    (stride : point.Stride permit e next kept) (gone : Nat) :
    (∃ later, speech gone point.reported ++ e.notices = speech later next.reported) ∧
      ∀ notice ∈ e.notices, notice ∈ vocabulary := by
  cases stride with
  | settle => exact ⟨⟨gone, List.append_nil _⟩, List.forall_mem_nil _⟩
  | report =>
    refine ⟨⟨gone, speech_report gone⟩, ?_⟩
    exact List.forall_mem_singleton.mpr List.mem_cons_self
  | retract =>
    refine ⟨⟨gone + 1, speech_retract gone⟩, ?_⟩
    exact List.forall_mem_singleton.mpr (List.mem_cons_of_mem _ List.mem_cons_self)
  | pass aside same =>
    rw [Effect.notices_of_aside aside, same]
    exact ⟨⟨gone, List.append_nil _⟩, List.forall_mem_nil _⟩

theorem Footing.handled {said : List (List UInt8)} {ends : LooseEnds} {t : Task}
    {heed : Bool} (footing : Footing sim said ends t) (ran : t.step now heed = some (mid, e))
    (handled : Rig.Handled coin d now mid e later results after) :
    ∃ rest, Footing sim (said ++ e.notices) rest after ∧
      ends.After e rest ∧ ∀ notice ∈ e.notices, notice ∈ vocabulary := by
  cases footing with
  | cycling point gone id due established cancelled permit unasked =>
    cases Point.step_posture unasked ran with
    | @along next kept _ due established unasked stride =>
      have after := stride.after
      obtain ⟨⟨count, said⟩, known⟩ := stride.said gone
      obtain ⟨last, due, established, rfl, unasked, reported, same, -⟩ :=
        stride.handled unasked handled
      rw [said, ← reported]
      rw [← same] at after
      exact ⟨_, .cycling last count id due established cancelled kept unasked, after, known⟩
    | out departing told settled =>
      rw [handled.eq_of_quiet rfl nofun]
      exact ⟨_, .departing gone point.reported told departing, settled, List.forall_mem_nil _⟩
  | @departing _ said gone up told departing =>
    have told := (Task.step_spec ran).1.cancelled.trans told
    rcases departing.step ran with ⟨rfl, exited, rfl⟩ | ⟨kind, ready, departing⟩
    · rw [handled.eq_of_quiet rfl nofun, Effect.notices_of_aside rfl, List.append_nil]
      exact ⟨_, .gone gone up told exited, after_silence rfl (by decide) (by decide),
        List.forall_mem_nil _⟩
    · rw [List.append_assoc]
      rcases kind with rfl | ⟨notice, mem, rfl⟩
      · rw [handled.eq_of_quiet rfl nofun]
        exact ⟨_, .departing gone up told departing, after_silence rfl (by decide) (by decide),
          List.forall_mem_nil _⟩
      · rw [handled.eq_of_quiet (establishes_farewell notice mem) fun _ => ready]
        refine ⟨_, .departing gone up told departing, after_farewell mem, ?_⟩
        exact List.forall_mem_singleton.mpr
          (List.mem_cons_of_mem _ (List.mem_cons_of_mem _ mem))
  | gone gone up told stage =>
    unfold Task.step at ran
    rw [stage] at ran
    cases ran

end handled

namespace Footing
variable {said : List (List UInt8)} {ends : LooseEnds} {t : Task}
  (footing : Footing sim said ends t)
include footing

theorem cancel : Footing sim said ends t.cancel := by
  cases footing with
  | cycling point gone id due established cancelled permit unasked =>
    exact .cycling point gone id due established true permit unasked
  | departing gone up told departing =>
    exact .departing gone up rfl (departing.carry rfl rfl rfl)
  | gone gone up told stage => exact .gone gone up rfl stage

theorem terminate : ∃ owed, Footing sim said { ends with owed } t.terminate ∧
    owed ≤ ends.owed + 1 := by
  cases footing with
  | cycling point gone id due established cancelled permit unasked =>
    have on (later : Point) (kept : Bool) (unasked : later.hasPermit = false) :
        Footing sim (speech gone later.reported) (later.looseEnds kept)
          (later.posture sim id due established cancelled kept) :=
      .cycling later gone id due established cancelled kept unasked
    have stored (heard : Nat) : heard + true.toNat ≤ heard + permit.toNat + 1 := by
      rw [Nat.add_assoc]
      exact Nat.add_le_add_left (Nat.succ_le_succ (Nat.zero_le _)) heard
    have woken : true.toNat + permit.toNat ≤ 0 + permit.toNat + 1 := by
      simp only [Bool.toNat_true]
      omega
    cases point with
    | asked => cases unasked
    | parked => exact ⟨_, on .woken permit rfl, woken⟩
    | reporting => exact ⟨_, on .reporting true rfl, stored 0⟩
    | settling => exact ⟨_, on .settling true rfl, stored 0⟩
    | settled => exact ⟨_, on .settled true rfl, stored 0⟩
    | woken => exact ⟨_, on .woken true rfl, stored 1⟩
    | lowering => exact ⟨_, on .lowering true rfl, stored 1⟩
    | leaving => exact ⟨_, on .leaving permit rfl, Nat.le_succ _⟩
    | done => exact ⟨_, on .done permit rfl, Nat.le_succ _⟩
    | spawned => exact ⟨_, on .spawned permit rfl, Nat.le_succ _⟩
    | starting => exact ⟨_, on .starting permit rfl, Nat.le_succ _⟩
    | waiting => exact ⟨_, on .waiting permit rfl, Nat.le_succ _⟩
    | rising => exact ⟨_, on .rising permit rfl, Nat.le_succ _⟩
  | departing gone up told departing =>
    refine ⟨0, .departing gone up ?_ ?_, Nat.zero_le _⟩
    · exact t.terminate_kept.cancelled.trans told
    · unfold Task.terminate
      split
      · exact departing
      · have ready := departing.stage
        simp only [ready]
        exact departing.carry ready.symm rfl rfl
  | gone gone up told stage =>
    refine ⟨0, .gone gone up ?_ ?_, Nat.zero_le _⟩
    · exact t.terminate_kept.cancelled.trans told
    · rcases t.terminate_stage with same | ⟨parked, -⟩
      · exact same.trans stage
      · cases stage.symm.trans parked

theorem exited (stage : t.stage = .exited) :
    ends = {} ∧ ∃ gone up, said = speech gone up ++ farewell := by
  cases footing with
  | cycling point gone id due established =>
    exact absurd stage (point.stageAt_ne_exited due established)
  | departing gone up told departing => cases departing.stage.symm.trans stage
  | gone gone up => exact ⟨rfl, gone, up, rfl⟩

theorem sound (message : String) : t.stage ≠ .crashed message := by
  intro stage
  cases footing with
  | cycling point =>
    revert stage
    cases point <;> nofun
  | departing gone up told departing => cases departing.stage.symm.trans stage
  | gone gone up told exited => cases exited.symm.trans stage

theorem cycles (untold : t.cancelled = false) :
    ∃ (point : Point) (gone id due established : Nat) (permit : Bool), point.hasPermit = false ∧
      t = point.posture sim id due established false permit ∧
        said = speech gone point.reported ∧ ends = point.looseEnds permit := by
  cases footing with
  | departing gone up told => cases untold.symm.trans told
  | gone gone up told => cases untold.symm.trans told
  | cycling point gone id due established cancelled permit unasked =>
    obtain rfl : cancelled = false := untold
    exact ⟨point, gone, id, due, established, permit, unasked, rfl, rfl, rfl⟩

theorem waiting {now : Nat} (untold : t.cancelled = false) (waits : t.step now true = none) :
    ends.raised = 0 ∧ ends.lowered = 0 ∧ t.isLive = true ∧
      ∃ gone up, said = speech gone up := by
  obtain ⟨point, gone, id, due, established, permit, unasked, rfl, rfl, rfl⟩ :=
    footing.cycles untold
  suffices still : point.raised = 0 ∧ point.lowered = 0 ∧
      (point.posture sim id due established false permit).isLive = true from
    ⟨still.1, still.2.1, still.2.2, gone, _, rfl⟩
  cases point with
  | waiting | settling | parked => exact ⟨rfl, rfl, rfl⟩
  | starting =>
    rw [Point.step_starting_posture] at waits
    simp only [Bool.false_and, Bool.false_eq_true, if_false] at waits
    split at waits <;> cases waits
  | settled => cases permit <;> cases waits
  | asked => cases unasked
  | _ => cases waits

end Footing

end TunnelSoak.Simulation
