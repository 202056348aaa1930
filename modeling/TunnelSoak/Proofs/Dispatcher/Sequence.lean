import TunnelSoak.Proofs.Dispatcher.Balance

/-! The slots as a sequential machine. One act at a time: a delivery completes, a request is
taken, or the loop goes. A completion flips its own coin, fills the slot of its request if
that is empty and open, and is dropped otherwise; nothing waits. This is what a dispatcher
comes down to once the order of the acts is known. -/
namespace TunnelSoak

theorem Mode.request_flips (mode : Mode) (coin : Nat → Bool) (count : Nat) :
    mode.request coin (count * mode.flipsEach) = mode.request coin count := by
  cases mode <;> simp [request, flipsEach]

namespace Dispatcher

structure Slots where
  full : Request → Bool := fun _ => false
  closed : Bool := false
  flips : Nat := 0

inductive Visit where
  | take (request : Request)
  | close
  deriving DecidableEq, Repr

inductive Act where
  | complete (delivery : Nat)
  | visit (visit : Visit)
  deriving DecidableEq, Repr

inductive Outcome where
  | settled (result : Dispatched)
  | taken (full : Bool)
  | closed
  deriving DecidableEq, Repr

/-- Delivery number `delivery` goes by the coin of that number. -/
def Slots.complete (mode : Mode) (coin : Nat → Bool) (slots : Slots) (delivery : Nat) :
    Outcome × Slots :=
  let request := mode.request coin delivery
  let slots := { slots with flips := slots.flips + mode.flipsEach }
  if slots.closed || slots.full request then (.settled (.dropped request), slots)
  else
    (.settled (.posted request),
      { slots with full := fun other => other = request || slots.full other })

def Slots.visit (slots : Slots) : Visit → Outcome × Slots
  | .take request =>
    (.taken (slots.full request),
      { slots with full := fun other => other ≠ request && slots.full other })
  | .close => (.closed, { slots with full := fun _ => false, closed := true })

def Slots.act (mode : Mode) (coin : Nat → Bool) (slots : Slots) : Act → Outcome × Slots
  | .complete delivery => slots.complete mode coin delivery
  | .visit visit => slots.visit visit

def Slots.replay (mode : Mode) (coin : Nat → Bool) (slots : Slots) :
    List (Nat × Act) → List (Nat × Act × Outcome) × Slots
  | [] => ([], slots)
  | (time, act) :: acts =>
    let (outcome, next) := slots.act mode coin act
    let (outcomes, last) := Slots.replay mode coin next acts
    ((time, act, outcome) :: outcomes, last)

theorem Slots.replay_concat (mode : Mode) (coin : Nat → Bool) (slots : Slots)
    (acts : List (Nat × Act)) (time : Nat) (act : Act) :
    slots.replay mode coin (acts ++ [(time, act)]) =
      let (outcomes, last) := slots.replay mode coin acts
      (outcomes ++ [(time, act, (last.act mode coin act).1)], (last.act mode coin act).2) := by
  induction acts generalizing slots with
  | nil => rfl
  | cons first acts ih =>
    obtain ⟨early, other⟩ := first
    simp only [List.cons_append, Slots.replay, ih]

theorem Slots.replay_length (mode : Mode) (coin : Nat → Bool) (slots : Slots)
    (acts : List (Nat × Act)) : (slots.replay mode coin acts).1.length = acts.length := by
  induction acts generalizing slots with
  | nil => rfl
  | cons act acts ih => exact congrArg Nat.succ (ih _)

def slots (d : Dispatcher) : Slots where
  full := d.pending
  closed := d.closed
  flips := d.flips

def visit (d : Dispatcher) : Visit → Outcome × Dispatcher
  | .take request => (.taken (d.take request).1, (d.take request).2)
  | .close => (.closed, d.close)

section visit
variable (d : Dispatcher) (visit : Visit)

theorem visit_mode : (d.visit visit).2.mode = d.mode := by
  cases visit with
  | take request => exact setPending_mode _ _ _
  | close => rfl

theorem visit_settleMs : (d.visit visit).2.settleMs = d.settleMs := by
  cases visit with
  | take request => cases request <;> rfl
  | close => rfl

theorem visit_tracker : (d.visit visit).2.tracker = d.tracker := by
  cases visit with
  | take request => exact setPending_tracker _ _ _
  | close => rfl

theorem visit_flips : (d.visit visit).2.flips = d.flips := by
  cases visit with
  | take request => exact setPending_flips _ _ _
  | close => rfl

end visit

theorem slots_visit (d : Dispatcher) (visit : Visit) :
    d.slots.visit visit = ((d.visit visit).1, (d.visit visit).2.slots) := by
  cases visit with
  | take request =>
    have full : (fun other => decide (other ≠ request) && d.pending other) =
        (d.setPending request false).pending := by
      funext other
      by_cases same : other = request
      · subst same
        simp
      · simp [same, pending_setPending_of_ne]
    simp only [Slots.visit, Dispatcher.visit, slots, take, full, setPending_closed,
      setPending_flips]
  | close =>
    have empty : (fun _ => false) = d.close.pending := by
      funext other
      cases other <;> rfl
    simp only [Slots.visit, Dispatcher.visit, slots, empty]
    rfl

theorem slots_complete (d : Dispatcher) (coin : Nat → Bool) {count : Nat}
    (flips : d.flips = count * d.mode.flipsEach) :
    d.slots.complete d.mode coin count =
      (.settled (d.settle coin).1, (d.settle coin).2.slots) := by
  have settled := d.settle_cases coin
  rw [flips, d.mode.request_flips] at settled
  unfold Slots.complete
  dsimp only
  rcases settled with ⟨full, settled⟩ | ⟨isOpen, empty, settled⟩
  · rw [settled, if_pos]
    · have same : d.flipped.pending = d.pending := funext d.flipped_pending
      simp only [slots, same]
      rfl
    · rw [Bool.or_eq_true]
      exact full
  · have filled (request : Request) :
        (fun other => decide (other = request) || d.pending other) =
          (d.flipped.setPending request true).pending := by
      funext other
      by_cases same : other = request
      · subst same
        simp
      · simp [same, pending_setPending_of_ne]
    rw [settled, if_neg]
    · simp only [slots, filled, setPending_closed, setPending_flips]
      rfl
    · rw [Bool.or_eq_true]
      rintro (closed | full)
      · exact absurd (closed.symm.trans isOpen) Bool.noConfusion
      · exact absurd (full.symm.trans empty) Bool.noConfusion

/-- The dispatcher has done the first acts of an agenda with these outcomes, `count` completions
among them, and the rest is still to be done. -/
structure Served (mode : Mode) (coin : Nat → Bool) (agenda : List (Nat × Act)) (now count : Nat)
    (d : Dispatcher) (outcomes : List (Nat × Act × Outcome)) (todo : List (Nat × Act)) : Prop where
  same : d.mode = mode
  flips : d.flips = count * mode.flipsEach
  acts : ∃ done, agenda = done ++ todo ∧ (∀ act ∈ done, act.1 ≤ now) ∧
    Slots.replay mode coin {} done = (outcomes, d.slots)

namespace Served
variable {mode : Mode} {coin : Nat → Bool} {agenda todo : List (Nat × Act)} {now count : Nat}
  {d : Dispatcher} {outcomes : List (Nat × Act × Outcome)}

theorem new (mode : Mode) (settleMs : Nat) (coin : Nat → Bool) (agenda : List (Nat × Act)) :
    Served mode coin agenda 0 0 { mode, settleMs } [] agenda := by
  have empty : ({ mode, settleMs } : Dispatcher).pending = fun _ => false := by
    funext request
    cases request <;> rfl
  refine ⟨rfl, (Nat.zero_mul _).symm, [], rfl, nofun, ?_⟩
  simp only [slots, empty]
  rfl

theorem later (served : Served mode coin agenda now count d outcomes todo) {time : Nat}
    (later : now ≤ time) : Served mode coin agenda time count d outcomes todo := by
  obtain ⟨same, flips, done, split, past, replayed⟩ := served
  exact ⟨same, flips, done, split, fun act mem => Nat.le_trans (past act mem) later, replayed⟩

theorem arrived (served : Served mode coin agenda now count d outcomes todo) :
    Served mode coin agenda now count { d with tracker := d.tracker.increment } outcomes todo :=
  ⟨served.same, served.flips, served.acts⟩

theorem act {act : Act} {next : Dispatcher} {outcome : Outcome} {more : Nat}
    (served : Served mode coin agenda now count d outcomes ((now, act) :: todo))
    (acted : d.slots.act mode coin act = (outcome, next.slots)) (same : next.mode = mode)
    (flips : next.flips = more * mode.flipsEach) :
    Served mode coin agenda now more next (outcomes ++ [(now, act, outcome)]) todo := by
  obtain ⟨-, -, done, split, past, replayed⟩ := served
  refine ⟨same, flips, done ++ [(now, act)], by simpa using split, fun other mem => ?_, ?_⟩
  · rcases List.mem_append.mp mem with mem | mem
    · exact past other mem
    · exact Nat.le_of_eq (congrArg Prod.fst (List.mem_singleton.mp mem))
  · rw [Slots.replay_concat, replayed]
    simp only [acted]

theorem complete
    (served : Served mode coin agenda now count d outcomes ((now, .complete count) :: todo)) :
    Served mode coin agenda now (count + 1) (d.settle coin).2
      (outcomes ++ [(now, .complete count, .settled (d.settle coin).1)]) todo := by
  have same := served.same
  have flips := served.flips
  subst same
  refine served.act (d.slots_complete coin flips) (settle_mode coin d) ?_
  have flipped : (d.settle coin).2.flips = d.flips + d.mode.flipsEach := by
    rcases d.settle_cases coin with ⟨-, settled⟩ | ⟨-, -, settled⟩ <;> rw [settled]
    · rfl
    · exact setPending_flips _ _ _
  rw [flipped, flips, Nat.succ_mul]

theorem visit {visit : Visit}
    (served : Served mode coin agenda now count d outcomes ((now, .visit visit) :: todo)) :
    Served mode coin agenda now count (d.visit visit).2
      (outcomes ++ [(now, .visit visit, (d.visit visit).1)]) todo :=
  served.act (d.slots_visit visit) ((d.visit_mode visit).trans served.same)
    ((d.visit_flips visit).trans served.flips)

end Served

end Dispatcher

end TunnelSoak
