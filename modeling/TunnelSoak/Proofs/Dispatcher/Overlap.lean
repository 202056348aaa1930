import TunnelSoak.Proofs.Dispatcher.Echo
import TunnelSoak.Proofs.Dispatcher.Sequence

/-! Deliveries that overlap. Tunnels arrive on tasks of their own, requests are taken and the
loop goes, each at an appointed time; in between deliveries sleep, and those that are due may
go on in any order. Still the dispatcher does what the sequential machine does when the
completions, each a settle delay after its arrival, and the visits of the loop are put in
order of time: all deliveries sleep equally long, so none overtakes another. -/
namespace TunnelSoak.Dispatcher

inductive Cue where
  | arrive (notice : List UInt8)
  | visit (visit : Visit)
  deriving DecidableEq, Repr

def arrivals (cues : List (Nat × Cue)) : List Nat :=
  cues.filterMap fun cue =>
    match cue.2 with
    | .arrive _ => some cue.1
    | .visit _ => none

def visits (cues : List (Nat × Cue)) : List (Nat × Act) :=
  cues.filterMap fun cue =>
    match cue.2 with
    | .arrive _ => none
    | .visit visit => some (cue.1, .visit visit)

/-- The completions of deliveries that arrive at these times, numbered from `first`. -/
def completions (settleMs first : Nat) : List Nat → List (Nat × Act)
  | [] => []
  | time :: times => (time + settleMs, .complete first) :: completions settleMs (first + 1) times

def earlier (act other : Nat × Act) : Bool := act.1 ≤ other.1

def agenda (settleMs : Nat) (cues : List (Nat × Cue)) : List (Nat × Act) :=
  (completions settleMs 0 (arrivals cues)).merge (visits cues) earlier

/-- Tunnels arrive one at a time, and the loop comes when no delivery completes. -/
structure Orderly (settleMs : Nat) (cues : List (Nat × Cue)) : Prop where
  sorted : cues.Pairwise fun cue other => cue.1 ≤ other.1
  rising : (arrivals cues).Pairwise (· < ·)
  establish : ∀ time notice, (time, .arrive notice) ∈ cues → Notice.establishes notice = true
  clear : ∀ time ∈ arrivals cues, ∀ act ∈ visits cues, act.1 ≠ time + settleMs

structure Scene where
  desk : Desk
  cues : List (Nat × Cue)
  /-- The times of the arrivals, each with the count that it brought about. -/
  counts : List (Nat × Nat) := []
  outcomes : List (Nat × Act × Outcome) := []

namespace Scene

def start (mode : Mode) (settleMs : Nat) (cues : List (Nat × Cue)) : Scene where
  desk := { dispatcher := { mode, settleMs } }
  cues := cues

def reported (desk : Desk) (ticket : Nat) : List (Nat × Act × Outcome) :=
  (desk.answer ticket).toList.map fun result => (desk.now, .complete ticket, .settled result)

def arrive (coin : Nat → Bool) (scene : Scene) (notice : List UInt8) (cues : List (Nat × Cue)) :
    Scene :=
  let desk := scene.desk.deliver coin notice
  { desk, cues
    counts := scene.counts ++ [(desk.now, desk.dispatcher.tracker.established)]
    outcomes := scene.outcomes ++ reported desk scene.desk.tickets }

def visit (scene : Scene) (visit : Visit) (cues : List (Nat × Cue)) : Scene :=
  let (outcome, dispatcher) := scene.desk.dispatcher.visit visit
  { scene with
    desk.dispatcher := dispatcher, cues
    outcomes := scene.outcomes ++ [(scene.desk.now, .visit visit, outcome)] }

def finish (coin : Nat → Bool) (scene : Scene) (delivery : Delivery) : Scene :=
  let desk := (scene.desk.release delivery).settle coin delivery.ticket delivery.established
  { scene with desk, outcomes := scene.outcomes ++ reported desk delivery.ticket }

def isOver (scene : Scene) : Bool := scene.cues.isEmpty && scene.desk.settling.isEmpty

/-- What can happen next. Of the deliveries that are due any may go on, before or after what is
appointed for the same time; time passes as long as nothing is due. -/
inductive Step (coin : Nat → Bool) (scene : Scene) : Scene → Prop
  | arrive {notice : List UInt8} {cues : List (Nat × Cue)}
    (next : scene.cues = (scene.desk.now, .arrive notice) :: cues) :
    Step coin scene (scene.arrive coin notice cues)
  | visit {visit : Visit} {cues : List (Nat × Cue)}
    (next : scene.cues = (scene.desk.now, .visit visit) :: cues) :
    Step coin scene (scene.visit visit cues)
  | finish {delivery : Delivery} (waits : delivery ∈ scene.desk.settling)
    (due : delivery.due ≤ scene.desk.now) : Step coin scene (scene.finish coin delivery)
  | elapse {time : Nat} (later : scene.desk.now < time) (going : scene.isOver = false)
    (cues : ∀ cue ∈ scene.cues, time ≤ cue.1)
    (sleepers : ∀ delivery ∈ scene.desk.settling, time ≤ delivery.due) :
    Step coin scene { scene with desk.now := time }

inductive Played (coin : Nat → Bool) (start : Scene) : Nat → Scene → Prop
  | start : Played coin start 0 start
  | step {steps : Nat} {scene next : Scene} (played : Played coin start steps scene)
    (step : Step coin scene next) : Played coin start (steps + 1) next

/-- The completions to come, of the deliveries that sleep and of those that are to arrive. -/
def pending (desk : Desk) (cues : List (Nat × Cue)) : List (Nat × Act) :=
  desk.settling.map (fun delivery => (delivery.due, .complete delivery.ticket)) ++
    completions desk.dispatcher.settleMs desk.tickets (arrivals cues)

section merge
variable {act : Nat × Act} {acts others : List (Nat × Act)}

theorem merge_first (first : ∀ other ∈ others, act.1 ≤ other.1) :
    (act :: acts).merge others earlier = act :: acts.merge others earlier := by
  cases others with
  | nil => rw [List.merge_right, List.merge_right]
  | cons other others =>
    exact List.cons_merge_cons_pos _ _ _ (decide_eq_true (first other List.mem_cons_self))

theorem merge_second (second : ∀ other ∈ acts, act.1 < other.1) :
    acts.merge (act :: others) earlier = act :: acts.merge others earlier := by
  cases acts with
  | nil => rw [List.nil_merge, List.nil_merge]
  | cons first acts =>
    refine List.cons_merge_cons_neg _ _ _ fun before => ?_
    exact Nat.not_le_of_lt (second first List.mem_cons_self) (of_decide_eq_true before)

end merge

/-- The queue of a desk, `count` of whose deliveries have finished, and the cues to come. -/
structure Booked (count : Nat) (desk : Desk) (cues : List (Nat × Cue)) : Prop where
  tickets : desk.settling.map Delivery.ticket = List.range' count desk.settling.length
  given : desk.tickets = count + desk.settling.length
  rising : (pending desk cues).Pairwise fun act other => act.1 < other.1
  sleepers : ∀ delivery ∈ desk.settling, desk.now ≤ delivery.due
  ahead : ∀ cue ∈ cues, desk.now ≤ cue.1
  sorted : cues.Pairwise fun cue other => cue.1 ≤ other.1
  establish : ∀ time notice, (time, .arrive notice) ∈ cues → Notice.establishes notice = true
  clear : ∀ act ∈ pending desk cues, ∀ visit ∈ visits cues, visit.1 ≠ act.1
  fresh : ∀ ticket, desk.tickets ≤ ticket → desk.answer ticket = none

structure Counted (times : List Nat) (counts : List (Nat × Nat)) (d : Dispatcher)
    (cues : List (Nat × Cue)) : Prop where
  times : times = counts.map Prod.fst ++ arrivals cues
  numbers : counts.map Prod.snd = List.range' 1 counts.length
  tracker : d.tracker.established = counts.length

theorem reported_settle (coin : Nat → Bool) (desk : Desk) (ticket established : Nat) :
    reported (desk.settle coin ticket established) ticket =
      [(desk.now, .complete ticket, .settled (desk.dispatcher.settle coin).1)] := by
  have answer : (desk.settle coin ticket established).answer ticket =
      some (desk.dispatcher.settle coin).1 :=
    (Desk.answer_finish _ _ _ _).trans (if_pos rfl)
  rw [reported, answer]
  rfl

theorem mem_completions {settleMs first : Nat} {times : List Nat} {act : Nat × Act}
    (mem : act ∈ completions settleMs first times) : ∃ time ∈ times, act.1 = time + settleMs := by
  induction times generalizing first with
  | nil => cases mem
  | cons time times ih =>
    rcases List.mem_cons.mp mem with rfl | mem
    · exact ⟨time, List.mem_cons_self, rfl⟩
    · obtain ⟨other, listed, same⟩ := ih mem
      exact ⟨other, List.mem_cons_of_mem _ listed, same⟩

theorem mem_arrivals {cues : List (Nat × Cue)} {time : Nat} :
    time ∈ arrivals cues ↔ ∃ notice, (time, .arrive notice) ∈ cues := by
  unfold arrivals
  rw [List.mem_filterMap]
  constructor
  · rintro ⟨⟨other, cue⟩, mem, same⟩
    cases cue with
    | arrive notice =>
      cases same
      exact ⟨notice, mem⟩
    | visit visit => cases same
  · rintro ⟨notice, mem⟩
    exact ⟨_, mem, rfl⟩

theorem mem_visits {cues : List (Nat × Cue)} {act : Nat × Act} (mem : act ∈ visits cues) :
    ∃ visit, (act.1, .visit visit) ∈ cues := by
  obtain ⟨⟨time, cue⟩, listed, same⟩ := List.mem_filterMap.mp mem
  cases cue with
  | arrive notice => cases same
  | visit visit =>
    cases same
    exact ⟨visit, listed⟩

def queued (desk : Desk) (notice : List UInt8) : Desk :=
  { desk.counted notice with settling := desk.settling ++ [desk.delayed] }

theorem pending_queued (desk : Desk) (notice : List UInt8) (cues : List (Nat × Cue)) :
    pending (queued desk notice) cues = pending desk ((desk.now, .arrive notice) :: cues) := by
  have appended : (queued desk notice).settling = desk.settling ++ [desk.delayed] := rfl
  rw [pending, appended, List.map_append, List.append_assoc]
  rfl

namespace Booked
variable {count : Nat} {desk : Desk} {cues : List (Nat × Cue)}

section
variable (booked : Booked count desk cues)
include booked

theorem due {act : Nat × Act} (mem : act ∈ (pending desk cues).merge (visits cues) earlier) :
    desk.now ≤ act.1 := by
  rcases List.mem_merge.mp mem with mem | mem
  · rcases List.mem_append.mp mem with mem | mem
    · obtain ⟨delivery, waits, rfl⟩ := List.mem_map.mp mem
      exact booked.sleepers delivery waits
    · obtain ⟨time, listed, same⟩ := mem_completions mem
      obtain ⟨notice, cue⟩ := mem_arrivals.mp listed
      rw [same]
      exact Nat.le_trans (booked.ahead _ cue) (Nat.le_add_right _ _)
  · obtain ⟨visit, cue⟩ := mem_visits mem
    exact booked.ahead _ cue

theorem behind {delivery : Delivery} {rest : List Delivery}
    (queue : desk.settling = delivery :: rest) : ∀ other ∈ rest, delivery.due < other.due := by
  intro other mem
  have rising := booked.rising
  rw [pending, queue] at rising
  exact (List.pairwise_cons.mp rising).1 (other.due, .complete other.ticket)
    (List.mem_append_left _ (List.mem_map_of_mem mem))

theorem first {delivery : Delivery} (waits : delivery ∈ desk.settling)
    (due : delivery.due ≤ desk.now) :
    ∃ rest, desk.settling = delivery :: rest ∧ delivery.due = desk.now ∧
      delivery.ticket = count := by
  have present := Nat.le_antisymm due (booked.sleepers delivery waits)
  cases queue : desk.settling with
  | nil =>
    rw [queue] at waits
    cases waits
  | cons head rest =>
    have only : delivery = head := by
      rw [queue] at waits
      rcases List.mem_cons.mp waits with same | mem
      · exact same
      · have ahead := booked.behind queue delivery mem
        have slept := booked.sleepers head (queue ▸ List.mem_cons_self)
        omega
    subst only
    have tickets := booked.tickets
    rw [queue, List.map_cons, List.length_cons, List.range'_succ] at tickets
    exact ⟨rest, rfl, present, (List.cons.inj tickets).1⟩

theorem fresh_delayed : desk.delayed ∉ desk.settling := by
  intro mem
  have ticket := List.mem_map_of_mem (f := Delivery.ticket) mem
  rw [booked.tickets, List.mem_range'_1] at ticket
  exact Nat.lt_irrefl _ (Nat.lt_of_lt_of_eq ticket.2 booked.given.symm)

theorem finish {delivery : Delivery} {rest : List Delivery}
    (queue : desk.settling = delivery :: rest) (coin : Nat → Bool) :
    Booked (count + 1)
      (Desk.settle coin { desk with settling := rest } delivery.ticket delivery.established)
      cues := by
  have tail : pending desk cues = (delivery.due, .complete delivery.ticket) ::
      pending { desk with settling := rest } cues := by
    rw [pending, queue]
    rfl
  have same : pending
      (Desk.settle coin { desk with settling := rest } delivery.ticket delivery.established) cues =
        pending { desk with settling := rest } cues := by
    have settleMs := settle_settleMs coin desk.dispatcher
    exact congrArg (fun ms => rest.map _ ++ completions ms desk.tickets (arrivals cues)) settleMs
  obtain ⟨tickets, given, rising, sleepers, ahead, sorted, establish, clear, fresh⟩ := booked
  rw [tail] at rising clear
  rw [queue] at tickets given sleepers
  rw [List.map_cons, List.length_cons, List.range'_succ] at tickets
  obtain ⟨own, tickets⟩ := List.cons.inj tickets
  rw [List.length_cons] at given
  refine ⟨tickets, ?_, ?_, fun other mem => sleepers other (List.mem_cons_of_mem _ mem), ahead,
    sorted, establish, ?_, fun ticket late => ?_⟩
  · change desk.tickets = count + 1 + rest.length
    omega
  · rw [same]
    exact (List.pairwise_cons.mp rising).2
  · rw [same]
    exact fun act mem => clear act (List.mem_cons_of_mem _ mem)
  · have apart : delivery.ticket ≠ ticket := by
      have : desk.tickets ≤ ticket := late
      omega
    exact (Desk.answer_finish _ _ _ _).trans ((if_neg apart).trans (fresh ticket late))

end

theorem arrive {notice : List UInt8}
    (booked : Booked count desk ((desk.now, .arrive notice) :: cues)) :
    Booked count (queued desk notice) cues := by
  obtain ⟨tickets, given, rising, sleepers, ahead, sorted, establish, clear, fresh⟩ := booked
  rw [← pending_queued] at rising clear
  refine ⟨?_, ?_, rising, ?_, (List.forall_mem_cons.mp ahead).2, (List.pairwise_cons.mp sorted).2,
    fun time other mem => establish time other (List.mem_cons_of_mem _ mem), clear,
    fun ticket late => fresh ticket (Nat.le_of_succ_le late)⟩
  · change (desk.settling ++ [desk.delayed]).map Delivery.ticket =
      List.range' count (desk.settling ++ [desk.delayed]).length
    rw [List.map_append, List.length_append, List.length_singleton, List.range'_concat, tickets,
      Nat.one_mul, ← given]
    rfl
  · change desk.tickets + 1 = count + (desk.settling ++ [desk.delayed]).length
    rw [List.length_append, List.length_singleton, given, Nat.add_assoc]
  · intro delivery mem
    rcases List.mem_append.mp mem with mem | mem
    · exact sleepers delivery mem
    · rw [List.mem_singleton.mp mem]
      exact Nat.le_add_right _ _

theorem visit {visit : Visit}
    (booked : Booked count desk ((desk.now, .visit visit) :: cues)) :
    Booked count { desk with dispatcher := (desk.dispatcher.visit visit).2 } cues := by
  have same : pending { desk with dispatcher := (desk.dispatcher.visit visit).2 } cues =
      pending desk ((desk.now, .visit visit) :: cues) := by
    simp only [pending, visit_settleMs]
    rfl
  obtain ⟨tickets, given, rising, sleepers, ahead, sorted, establish, clear, fresh⟩ := booked
  rw [← same] at rising clear
  exact ⟨tickets, given, rising, sleepers, (List.forall_mem_cons.mp ahead).2,
    (List.pairwise_cons.mp sorted).2,
    fun time notice mem => establish time notice (List.mem_cons_of_mem _ mem),
    fun act mem other visits => clear act mem other (List.mem_cons_of_mem _ visits), fresh⟩

end Booked

/-- How a scene stands to the cues it started with, `count` of whose deliveries have finished. -/
structure Along (mode : Mode) (settleMs : Nat) (coin : Nat → Bool) (cues : List (Nat × Cue))
    (count : Nat) (scene : Scene) : Prop where
  booked : Booked count scene.desk scene.cues
  counted : Counted (arrivals cues) scene.counts scene.desk.dispatcher scene.cues
  served : Served mode coin (agenda settleMs cues) scene.desk.now count scene.desk.dispatcher
    scene.outcomes ((pending scene.desk scene.cues).merge (visits scene.cues) earlier)

namespace Along
variable {mode : Mode} {settleMs : Nat} {coin : Nat → Bool} {cues : List (Nat × Cue)}
  {count : Nat} {scene next : Scene}

theorem finish (along : Along mode settleMs coin cues count scene) {delivery : Delivery}
    (waits : delivery ∈ scene.desk.settling) (due : delivery.due ≤ scene.desk.now) :
    Along mode settleMs coin cues (count + 1) (scene.finish coin delivery) := by
  obtain ⟨booked, ⟨times, numbers, tracker⟩, served⟩ := along
  obtain ⟨rest, queue, time, rfl⟩ := booked.first waits due
  have released : scene.desk.release delivery = { scene.desk with settling := rest } := by
    rw [Desk.release, queue, List.erase_cons_head]
  have head : pending scene.desk scene.cues = (scene.desk.now, .complete delivery.ticket) ::
      pending { scene.desk with settling := rest } scene.cues := by
    rw [pending, queue, ← time]
    rfl
  have ordered : ∀ act ∈ visits scene.cues, scene.desk.now ≤ act.1 :=
    fun act mem => booked.due (List.mem_merge.mpr (.inr mem))
  rw [head, merge_first ordered] at served
  have settled := served.complete
  have tail : pending (scene.finish coin delivery).desk scene.cues =
      pending { scene.desk with settling := rest } scene.cues := by
    have same := settle_settleMs coin scene.desk.dispatcher
    change pending ((scene.desk.release delivery).settle coin _ _) _ = _
    rw [released]
    exact congrArg (fun ms => rest.map _ ++ completions ms scene.desk.tickets (arrivals scene.cues))
      same
  refine ⟨?_, ⟨times, numbers, ?_⟩, ?_⟩
  · change Booked _ ((scene.desk.release delivery).settle coin _ _) _
    rw [released]
    exact booked.finish queue coin
  · exact (congrArg Tracker.established (settle_tracker coin _)).trans tracker
  · change Served _ _ _ _ _ _ (scene.outcomes ++ reported _ delivery.ticket)
      ((pending (scene.finish coin delivery).desk scene.cues).merge _ _)
    rw [reported_settle, tail]
    exact settled

theorem queue {notice : List UInt8} {rest : List (Nat × Cue)}
    (along : Along mode settleMs coin cues count scene)
    (next : scene.cues = (scene.desk.now, .arrive notice) :: rest) :
    Along mode settleMs coin cues count
      { scene with
        desk := queued scene.desk notice, cues := rest
        counts := scene.counts ++
          [(scene.desk.now, scene.desk.dispatcher.tracker.established + 1)] } := by
  obtain ⟨booked, ⟨times, numbers, tracker⟩, served⟩ := along
  rw [next] at booked times served
  refine ⟨booked.arrive, ⟨?_, ?_, ?_⟩, ?_⟩
  · rw [List.map_append, List.append_assoc]
    exact times
  · rw [List.map_append, List.length_append, numbers, List.length_singleton, List.range'_concat,
      tracker, Nat.one_mul, Nat.add_comm 1]
    rfl
  · rw [List.length_append, List.length_singleton, ← tracker]
    rfl
  · rw [← pending_queued] at served
    exact served.arrived

theorem arrive {notice : List UInt8} {rest : List (Nat × Cue)}
    (along : Along mode settleMs coin cues count scene)
    (next : scene.cues = (scene.desk.now, .arrive notice) :: rest) :
    ∃ more, Along mode settleMs coin cues more (scene.arrive coin notice rest) := by
  have establishes : Notice.establishes notice = true :=
    along.booked.establish scene.desk.now notice (next ▸ List.mem_cons_self)
  have queue := along.queue next
  have delivered := scene.desk.deliver_establishing coin establishes
  by_cases instant : scene.desk.dispatcher.settleMs = 0
  · -- without a delay the delivery goes through the queue all the same
    rw [if_pos instant] at delivered
    have waits : scene.desk.delayed ∈ (queued scene.desk notice).settling :=
      List.mem_append_right _ List.mem_cons_self
    have due : scene.desk.delayed.due ≤ (queued scene.desk notice).now := by
      exact Nat.le_of_eq (congrArg (scene.desk.now + ·) instant)
    have released : (queued scene.desk notice).release scene.desk.delayed =
        scene.desk.counted notice := by
      have out : (scene.desk.settling ++ [scene.desk.delayed]).erase scene.desk.delayed =
          scene.desk.settling := by
        rw [List.erase_append_right _ along.booked.fresh_delayed, List.erase_cons_head,
          List.append_nil]
      exact congrArg (fun waiting => { scene.desk.counted notice with settling := waiting }) out
    have finished := queue.finish waits due
    refine ⟨count + 1, ?_⟩
    unfold Scene.arrive
    unfold Scene.finish at finished
    rw [released] at finished
    rw [delivered]
    have tracker := congrArg Tracker.established
      (settle_tracker coin (scene.desk.counted notice).dispatcher)
    have same : ((scene.desk.counted notice).settle coin scene.desk.tickets
        (scene.desk.dispatcher.tracker.established + 1)).dispatcher.tracker.established =
          scene.desk.dispatcher.tracker.established + 1 := tracker
    simp only [same]
    exact finished
  · rw [if_neg instant] at delivered
    have silent : (queued scene.desk notice).answer scene.desk.tickets = none :=
      along.booked.fresh _ (Nat.le_refl _)
    refine ⟨count, ?_⟩
    have none : reported (queued scene.desk notice) scene.desk.tickets = [] := by
      rw [reported, silent]
      rfl
    unfold Scene.arrive
    rw [delivered]
    change Along _ _ _ _ _
      { desk := queued scene.desk notice, cues := rest, counts := _
        outcomes := scene.outcomes ++ reported (queued scene.desk notice) scene.desk.tickets }
    rw [none, List.append_nil]
    exact queue

theorem visit {visit : Visit} {rest : List (Nat × Cue)}
    (along : Along mode settleMs coin cues count scene)
    (next : scene.cues = (scene.desk.now, .visit visit) :: rest) :
    Along mode settleMs coin cues count (scene.visit visit rest) := by
  obtain ⟨booked, ⟨times, numbers, tracker⟩, served⟩ := along
  rw [next] at booked times served
  have second : ∀ act ∈ pending scene.desk ((scene.desk.now, .visit visit) :: rest),
      scene.desk.now < act.1 := by
    intro act mem
    have due := booked.due (List.mem_merge.mpr (.inl mem))
    have clear := booked.clear act mem (scene.desk.now, .visit visit) List.mem_cons_self
    exact Nat.lt_of_le_of_ne due clear
  have listed : visits ((scene.desk.now, .visit visit) :: rest) =
      (scene.desk.now, .visit visit) :: visits rest := rfl
  rw [listed, merge_second second] at served
  have same : pending (scene.visit visit rest).desk rest =
      pending scene.desk ((scene.desk.now, .visit visit) :: rest) := by
    simp only [Scene.visit, pending, visit_settleMs]
    rfl
  refine ⟨booked.visit, ⟨times, numbers, ?_⟩, ?_⟩
  · exact (congrArg Tracker.established (visit_tracker _ visit)).trans tracker
  · change Served _ _ _ _ _ _ _ ((pending (scene.visit visit rest).desk rest).merge _ _)
    rw [same]
    exact served.visit

theorem step (along : Along mode settleMs coin cues count scene) (step : Step coin scene next) :
    ∃ more, Along mode settleMs coin cues more next := by
  cases step with
  | arrive cue => exact along.arrive cue
  | visit cue => exact ⟨count, along.visit cue⟩
  | finish waits due => exact ⟨count + 1, along.finish waits due⟩
  | elapse later going ahead sleepers =>
    obtain ⟨⟨tickets, given, rising, -, -, sorted, establish, clear, fresh⟩, counted, served⟩ :=
      along
    exact ⟨count,
      ⟨tickets, given, rising, sleepers, ahead, sorted, establish, clear, fresh⟩, counted,
      served.later (Nat.le_of_lt later)⟩

end Along

section start
variable {settleMs : Nat} {cues : List (Nat × Cue)}

theorem completions_rising {times : List Nat} (rising : times.Pairwise (· < ·)) (first : Nat) :
    (completions settleMs first times).Pairwise fun act other => act.1 < other.1 := by
  induction times generalizing first with
  | nil => exact .nil
  | cons time times ih =>
    obtain ⟨before, rising⟩ := List.pairwise_cons.mp rising
    refine List.pairwise_cons.mpr ⟨fun act mem => ?_, ih rising _⟩
    obtain ⟨other, listed, same⟩ := mem_completions mem
    rw [same]
    exact Nat.add_lt_add_right (before other listed) settleMs

variable (orderly : Orderly settleMs cues)
include orderly

theorem agenda_ordered :
    (agenda settleMs cues).Pairwise fun act other => act.1 ≤ other.1 := by
  have apart : (completions settleMs 0 (arrivals cues)).Pairwise (earlier · ·) :=
    (completions_rising orderly.rising 0).imp fun before => decide_eq_true (Nat.le_of_lt before)
  have visited : (visits cues).Pairwise (earlier · ·) := by
    refine (List.pairwise_filterMap).mpr (orderly.sorted.imp ?_)
    rintro ⟨time, cue⟩ ⟨later, other⟩ before act made next follows
    cases cue with
    | arrive => cases made
    | visit =>
      cases other with
      | arrive => cases follows
      | visit =>
        cases made
        cases follows
        exact decide_eq_true before
  have merged := @List.pairwise_merge _ earlier
    (fun a b c before after => decide_eq_true (Nat.le_trans (of_decide_eq_true before)
      (of_decide_eq_true after)))
    (fun a b => by simp [earlier, Nat.le_total]) _ _ apart visited
  exact merged.imp of_decide_eq_true

theorem along_start (mode : Mode) (coin : Nat → Bool) :
    Along mode settleMs coin cues 0 (start mode settleMs cues) := by
  refine ⟨⟨rfl, rfl, completions_rising orderly.rising 0, nofun, fun _ _ => Nat.zero_le _,
    orderly.sorted, orderly.establish, ?_, fun _ _ => rfl⟩, ⟨rfl, rfl, rfl⟩,
    .new mode settleMs coin _⟩
  intro act mem visit visits
  obtain ⟨time, listed, same⟩ := mem_completions mem
  rw [same]
  exact orderly.clear time listed visit visits

theorem Played.along {mode : Mode} {coin : Nat → Bool} {steps : Nat} {scene : Scene}
    (played : Played coin (Scene.start mode settleMs cues) steps scene) :
    ∃ count, Along mode settleMs coin cues count scene := by
  induction played with
  | start => exact ⟨0, along_start orderly mode coin⟩
  | step _ step ih =>
    obtain ⟨count, along⟩ := ih
    exact along.step step

end start

/-- As long as something is to come, something can happen. -/
theorem Booked.progress {count : Nat} {scene : Scene} (coin : Nat → Bool)
    (booked : Booked count scene.desk scene.cues) (going : scene.isOver = false) :
    ∃ next, Step coin scene next := by
  by_cases due : ∃ delivery ∈ scene.desk.settling, delivery.due ≤ scene.desk.now
  · obtain ⟨delivery, waits, due⟩ := due
    exact ⟨_, .finish waits due⟩
  · have asleep : ∀ delivery ∈ scene.desk.settling, scene.desk.now + 1 ≤ delivery.due :=
      fun delivery waits => Nat.lt_of_not_le fun early => due ⟨delivery, waits, early⟩
    cases cues : scene.cues with
    | nil => exact ⟨_, .elapse (Nat.lt_succ_self _) going (by simp [cues]) asleep⟩
    | cons cue rest =>
      obtain ⟨time, cue⟩ := cue
      have ahead := booked.ahead (time, cue) (cues ▸ List.mem_cons_self)
      have sorted := booked.sorted
      rw [cues] at sorted
      rcases Nat.eq_or_lt_of_le ahead with now | later
      · change scene.desk.now = time at now
        subst now
        cases cue with
        | arrive notice => exact ⟨_, .arrive cues⟩
        | visit visit => exact ⟨_, .visit cues⟩
      · refine ⟨_, .elapse (Nat.lt_succ_self _) going (fun other mem => ?_) asleep⟩
        rw [cues] at mem
        rcases List.mem_cons.mp mem with rfl | mem
        · exact later
        · exact Nat.le_trans later ((List.pairwise_cons.mp sorted).1 other mem)

theorem Step.advances {coin : Nat → Bool} {scene next : Scene} (step : Step coin scene next) :
    scene.desk.now + scene.outcomes.length + next.cues.length + 1 ≤
      next.desk.now + next.outcomes.length + scene.cues.length := by
  cases step with
  | @arrive notice rest cue =>
    rw [cue, List.length_cons]
    have now := Desk.deliver_now coin scene.desk notice
    have more : scene.outcomes.length ≤ (scene.arrive coin notice rest).outcomes.length := by
      unfold Scene.arrive
      rw [List.length_append]
      exact Nat.le_add_right _ _
    change _ + _ + rest.length + 1 ≤ (scene.desk.deliver coin notice).now + _ + _
    omega
  | visit cue =>
    simp only [Scene.visit, cue, List.length_append, List.length_cons, List.length_nil]
    omega
  | @finish delivery waits due =>
    have one : (scene.finish coin delivery).outcomes.length = scene.outcomes.length + 1 := by
      dsimp only [Scene.finish]
      rw [reported_settle, List.length_append, List.length_singleton]
    change _ ≤ scene.desk.now + _ + _
    rw [one]
    change scene.desk.now + scene.outcomes.length + scene.cues.length + 1 ≤ _
    omega
  | elapse later =>
    dsimp only
    omega

/-- What has happened is what the sequential machine makes of the acts so far; nothing that is
still to come is overdue. -/
structure Sequential (mode : Mode) (settleMs : Nat) (coin : Nat → Bool) (cues : List (Nat × Cue))
    (scene : Scene) : Prop where
  /-- The tracker has counted each arrival at its time. -/
  counted : ∃ later, arrivals cues = scene.counts.map Prod.fst ++ later ∧
    (∀ time ∈ later, scene.desk.now ≤ time) ∧
    scene.counts.map Prod.snd = List.range' 1 scene.counts.length ∧
    scene.desk.dispatcher.tracker.established = scene.counts.length
  /-- Completions and visits have come in order, each at its time. -/
  acted : ∃ done todo, agenda settleMs cues = done ++ todo ∧
    (∀ act ∈ done, act.1 ≤ scene.desk.now) ∧ (∀ act ∈ todo, scene.desk.now ≤ act.1) ∧
    Slots.replay mode coin {} done = (scene.outcomes, scene.desk.dispatcher.slots)
  /-- A scene in which nothing more can happen has seen everything. -/
  ended : (∀ next, ¬ Step coin scene next) →
    scene.counts.map Prod.fst = arrivals cues ∧
      Slots.replay mode coin {} (agenda settleMs cues) =
        (scene.outcomes, scene.desk.dispatcher.slots)

theorem Along.sequential {mode : Mode} {settleMs : Nat} {coin : Nat → Bool}
    {cues : List (Nat × Cue)} {count : Nat} {scene : Scene}
    (along : Along mode settleMs coin cues count scene) :
    Sequential mode settleMs coin cues scene := by
  obtain ⟨booked, ⟨times, numbers, tracker⟩, ⟨-, -, done, split, past, replayed⟩⟩ := along
  refine ⟨⟨_, times, fun time mem => ?_, numbers, tracker⟩,
    ⟨done, _, split, past, fun act mem => booked.due mem, replayed⟩, fun stuck => ?_⟩
  · obtain ⟨notice, cue⟩ := mem_arrivals.mp mem
    exact booked.ahead _ cue
  · have spent : scene.isOver = true := by
      cases going : scene.isOver with
      | true => rfl
      | false =>
        obtain ⟨next, step⟩ := booked.progress coin going
        exact absurd step (stuck next)
    obtain ⟨noCues, noSleepers⟩ := (Bool.and_eq_true _ _).mp spent
    rw [List.isEmpty_iff] at noCues noSleepers
    have none : pending scene.desk scene.cues = [] := by
      rw [pending, noCues, noSleepers]
      rfl
    rw [none, noCues, List.nil_merge] at split
    rw [noCues] at times
    refine ⟨(times.trans (List.append_nil _)).symm, ?_⟩
    rw [split]
    exact (congrArg _ (List.append_nil done)).trans replayed

theorem exists_horizon (acts : List (Nat × Act)) : ∃ horizon, ∀ act ∈ acts, act.1 ≤ horizon := by
  induction acts with
  | nil => exact ⟨0, nofun⟩
  | cons act acts ih =>
    obtain ⟨horizon, within⟩ := ih
    refine ⟨max act.1 horizon, List.forall_mem_cons.mpr ⟨Nat.le_max_left _ _, ?_⟩⟩
    exact fun other mem => Nat.le_trans (within other mem) (Nat.le_max_right _ _)

theorem Along.outcomes_le {mode : Mode} {settleMs : Nat} {coin : Nat → Bool}
    {cues : List (Nat × Cue)} {count : Nat} {scene : Scene}
    (along : Along mode settleMs coin cues count scene) :
    scene.outcomes.length ≤ (agenda settleMs cues).length := by
  obtain ⟨done, todo, split, -, -, replayed⟩ := along.sequential.acted
  have length := Slots.replay_length mode coin {} done
  rw [replayed] at length
  rw [split, List.length_append, ← length]
  exact Nat.le_add_right _ _

theorem exists_todo {scene : Scene} (going : scene.isOver = false) :
    ∃ act, act ∈ (pending scene.desk scene.cues).merge (visits scene.cues) earlier := by
  cases waiting : scene.desk.settling with
  | cons delivery rest =>
    have waits : delivery ∈ scene.desk.settling := waiting ▸ List.mem_cons_self
    exact ⟨_, List.mem_merge.mpr (.inl (List.mem_append_left _ (List.mem_map_of_mem waits)))⟩
  | nil =>
    cases appointed : scene.cues with
    | nil => simp [isOver, waiting, appointed] at going
    | cons cue rest =>
      obtain ⟨time, cue⟩ := cue
      cases cue with
      | arrive notice =>
        exact ⟨_, List.mem_merge.mpr (.inl (List.mem_append_right _ List.mem_cons_self))⟩
      | visit visit => exact ⟨_, List.mem_merge.mpr (.inr List.mem_cons_self)⟩

section played
variable {mode : Mode} {settleMs : Nat} {coin : Nat → Bool} {cues : List (Nat × Cue)}
  {steps : Nat} {scene : Scene}

theorem Played.steps_le
    (played : Played coin (Scene.start mode settleMs cues) steps scene) :
    steps + scene.cues.length ≤ scene.desk.now + scene.outcomes.length + cues.length := by
  induction played with
  | start => simp [Scene.start]
  | step _ step ih =>
    have advances := step.advances
    omega

theorem Played.wait (played : Played coin (Scene.start mode settleMs cues) steps scene)
    {time : Nat} (later : scene.desk.now ≤ time)
    (going : scene.desk.now < time → scene.isOver = false)
    (ahead : ∀ cue ∈ scene.cues, time ≤ cue.1)
    (sleepers : ∀ delivery ∈ scene.desk.settling, time ≤ delivery.due) :
    ∃ more, Played coin (Scene.start mode settleMs cues) more
      { scene with desk.now := time } := by
  rcases Nat.eq_or_lt_of_le later with now | later
  · subst now
    exact ⟨steps, played⟩
  · exact ⟨steps + 1, played.step (.elapse later (going later) ahead sleepers)⟩

variable (orderly : Orderly settleMs cues)
include orderly

theorem Played.now_le (played : Played coin (Scene.start mode settleMs cues) steps scene)
    {horizon : Nat} (within : ∀ act ∈ agenda settleMs cues, act.1 ≤ horizon) :
    scene.desk.now ≤ horizon := by
  induction played with
  | start => exact Nat.zero_le _
  | @step steps scene next played step ih =>
    obtain ⟨count, along⟩ := (played.step step).along orderly
    cases step with
    | arrive => exact (Desk.deliver_now coin _ _).symm ▸ ih
    | visit | finish => exact ih
    | elapse later going =>
      obtain ⟨act, mem⟩ := exists_todo going
      obtain ⟨done, split, -, -⟩ := along.served.acts
      exact Nat.le_trans (along.booked.due mem)
        (within act (split ▸ List.mem_append_right _ mem))

theorem Played.drain {time : Nat} {queue : List Delivery}
    (played : Played coin (Scene.start mode settleMs cues) steps scene)
    (waiting : scene.desk.settling = queue) (later : scene.desk.now ≤ time)
    (ahead : ∀ cue ∈ scene.cues, time ≤ cue.1)
    (going : scene.desk.now < time → scene.cues ≠ [] ∨ ∃ delivery ∈ queue, time ≤ delivery.due) :
    ∃ more next, Played coin (Scene.start mode settleMs cues) more next ∧
      next.desk = { Desk.drain coin time queue scene.desk with now := time } ∧
      next.cues = scene.cues ∧ next.counts = scene.counts := by
  induction queue generalizing steps scene with
  | nil =>
    have unfinished (early : scene.desk.now < time) : scene.isOver = false := by
      rcases going early with some_cue | ⟨delivery, mem, -⟩
      · simp [isOver, some_cue]
      · cases mem
    obtain ⟨more, waited⟩ := played.wait later unfinished ahead (by simp [waiting])
    refine ⟨more, _, waited, ?_, rfl, rfl⟩
    rw [Desk.drain, ← waiting]
  | cons delivery queue ih =>
    obtain ⟨count, along⟩ := played.along orderly
    have waits : delivery ∈ scene.desk.settling := waiting ▸ List.mem_cons_self
    have asleep := along.booked.sleepers delivery waits
    have behind : ∀ other ∈ delivery :: queue, delivery.due ≤ other.due :=
      List.forall_mem_cons.mpr ⟨Nat.le_refl _,
        fun other mem => Nat.le_of_lt (along.booked.behind waiting other mem)⟩
    have busy : scene.isOver = false := by simp [isOver, waiting]
    by_cases due : delivery.due ≤ time
    · obtain ⟨more, woken⟩ := played.wait asleep (fun _ => busy)
        (fun cue mem => Nat.le_trans due (ahead cue mem)) (waiting ▸ behind)
      have finished := woken.step (.finish waits (Nat.le_refl _))
      have released : scene.desk.settling.erase delivery = queue := by
        rw [waiting, List.erase_cons_head]
      obtain ⟨most, next, played, desk, same⟩ := ih finished released due ahead fun early => by
        rcases going (Nat.lt_of_le_of_lt asleep early) with some_cue | ⟨other, mem, late⟩
        · exact .inl some_cue
        · rcases List.mem_cons.mp mem with rfl | mem
          · exact absurd early (Nat.not_lt_of_le late)
          · exact .inr ⟨other, mem, late⟩
      let awake : Desk := { scene.desk with now := delivery.due }
      have drained := @Desk.Course.drain_settling coin time queue
        (scene.desk.settling.erase delivery)
        (awake.settle coin delivery.ticket delivery.established)
      refine ⟨most, next, played, desk.trans ?_, same⟩
      rw [Desk.drain, if_pos due, Nat.max_eq_right asleep]
      exact congrArg (fun desk : Desk => { desk with now := time }) drained
    · have early := Nat.lt_of_not_le due
      obtain ⟨more, waited⟩ := played.wait later (fun _ => busy) ahead
        (waiting ▸ fun other mem => Nat.le_trans (Nat.le_of_lt early) (behind other mem))
      refine ⟨more, _, waited, ?_, rfl, rfl⟩
      rw [Desk.drain, if_neg due, ← waiting]

theorem Played.advance (played : Played coin (Scene.start mode settleMs cues) steps scene)
    {ms : Nat} (ahead : ∀ cue ∈ scene.cues, scene.desk.now + ms ≤ cue.1)
    (going : scene.cues ≠ [] ∨
      ∃ delivery ∈ scene.desk.settling, scene.desk.now + ms ≤ delivery.due) :
    ∃ more next, Played coin (Scene.start mode settleMs cues) more next ∧
      next.desk = scene.desk.advance coin ms ∧ next.cues = scene.cues ∧
      next.counts = scene.counts :=
  played.drain orderly rfl (Nat.le_add_right _ _) ahead fun _ => going

/-- Deliveries that overlap come out as if one followed the other: whatever the order in which
tasks go on, a schedule is over after so many steps at the most, and on the way and at the end
all results, slots and flips are those of the sequential machine. -/
theorem overlap_is_sequential (mode : Mode) (coin : Nat → Bool) :
    (agenda settleMs cues).Pairwise (fun act other => act.1 ≤ other.1) ∧
      (∃ bound, ∀ steps scene, Played coin (start mode settleMs cues) steps scene →
        steps ≤ bound) ∧
      ∀ steps scene, Played coin (start mode settleMs cues) steps scene →
        Sequential mode settleMs coin cues scene := by
  refine ⟨agenda_ordered orderly, ?_, fun steps scene played => ?_⟩
  · obtain ⟨horizon, within⟩ := exists_horizon (agenda settleMs cues)
    refine ⟨horizon + (agenda settleMs cues).length + cues.length, fun steps scene played => ?_⟩
    obtain ⟨count, along⟩ := played.along orderly
    have steps := played.steps_le
    have now := played.now_le orderly within
    have outcomes := along.outcomes_le
    omega
  · obtain ⟨count, along⟩ := played.along orderly
    exact along.sequential

end played

/-- Three tunnels that sleep at the same time, the last of which finds its slot full. -/
def rush : List (Nat × Cue) := [
  (0, .arrive (Simulation.tunnelsNotice 1)), (100, .arrive (Simulation.tunnelsNotice 2)),
  (200, .arrive (Simulation.tunnelsNotice 3)), (500, .visit (.take .restart)),
  (600, .visit .close)]

theorem rush_is_sequential :
    ∃ steps scene, Played (· % 2 = 0) (start .reconnectAndRestart 250 rush) steps scene ∧
      scene.isOver = true ∧
      scene.counts = [(0, 1), (100, 2), (200, 3)] ∧
      scene.outcomes = [
        (250, .complete 0, .settled (.posted .restart)),
        (350, .complete 1, .settled (.posted .reconnect)),
        (450, .complete 2, .settled (.dropped .restart)),
        (500, .visit (.take .restart), .taken true), (600, .visit .close, .closed)] ∧
      Sequential .reconnectAndRestart 250 (· % 2 = 0) rush scene := by
  have establish : ∀ cue ∈ rush, (match cue.2 with
      | .arrive notice => Notice.establishes notice
      | .visit _ => true) = true := by decide +kernel
  have orderly : Orderly 250 rush :=
    ⟨by decide +kernel, by decide +kernel, fun _ _ mem => establish _ mem, by decide +kernel⟩
  have played : Played (· % 2 = 0) (start .reconnectAndRestart 250 rush) 0 _ := .start
  have played := played.step (@Step.arrive _ _ _ (rush.drop 1) rfl)
  have played := played.step (@Step.elapse _ _ 100 (by decide +kernel) (by decide +kernel)
    (by decide +kernel) (by decide +kernel))
  have played := played.step (@Step.arrive _ _ _ (rush.drop 2) rfl)
  have played := played.step (@Step.elapse _ _ 200 (by decide +kernel) (by decide +kernel)
    (by decide +kernel) (by decide +kernel))
  have played := played.step (@Step.arrive _ _ _ (rush.drop 3) rfl)
  have played := played.step (@Step.elapse _ _ 250 (by decide +kernel) (by decide +kernel)
    (by decide +kernel) (by decide +kernel))
  have played := played.step (@Step.finish _ _ ⟨0, 250, 1⟩ (by decide +kernel) (by decide +kernel))
  have played := played.step (@Step.elapse _ _ 350 (by decide +kernel) (by decide +kernel)
    (by decide +kernel) (by decide +kernel))
  have played := played.step (@Step.finish _ _ ⟨1, 350, 2⟩ (by decide +kernel) (by decide +kernel))
  have played := played.step (@Step.elapse _ _ 450 (by decide +kernel) (by decide +kernel)
    (by decide +kernel) (by decide +kernel))
  have played := played.step (@Step.finish _ _ ⟨2, 450, 3⟩ (by decide +kernel) (by decide +kernel))
  have played := played.step (@Step.elapse _ _ 500 (by decide +kernel) (by decide +kernel)
    (by decide +kernel) (by decide +kernel))
  have played := played.step (@Step.visit _ _ _ (rush.drop 4) rfl)
  have played := played.step (@Step.elapse _ _ 600 (by decide +kernel) (by decide +kernel)
    (by decide +kernel) (by decide +kernel))
  have played := played.step (@Step.visit _ _ _ [] rfl)
  exact ⟨_, _, played, by decide +kernel, by decide +kernel, by decide +kernel,
    (overlap_is_sequential orderly _ _).2.2 _ _ played⟩

end Scene

end TunnelSoak.Dispatcher
