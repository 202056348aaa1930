import TunnelSoak.Dispatcher.Desk
import TunnelSoak.Proofs.Dispatcher.Balance
import TunnelSoak.Simulation.Script

/-! Establishments are conserved. A course is any order in which things can happen to a
desk: notices arrive, deliveries finish one by one once their settle delay is over,
time passes, requests are taken, the loop goes, results are handed out. However they
fall, every establishment comes to one end, and no request is lost or made twice. -/
namespace TunnelSoak.Dispatcher.Desk

inductive Incident where
  | deliver (notice : List UInt8)
  | finish (delivery : Delivery)
  | elapse (ms : Nat)
  | take (request : Request) (full : Bool)
  | close
  | collect (ticket : Nat) (answer : Option Dispatched)

def release (desk : Desk) (delivery : Delivery) : Desk :=
  { desk with settling := desk.settling.erase delivery }

/-- What can happen next. Deliveries that are due may finish in any order and at any time. -/
inductive Step (coin : Nat → Bool) (desk : Desk) : Incident → Desk → Prop
  | deliver (notice : List UInt8) : Step coin desk (.deliver notice) (desk.deliver coin notice)
  | finish {delivery : Delivery} (waits : delivery ∈ desk.settling)
    (due : delivery.due ≤ desk.now) :
    Step coin desk (.finish delivery)
      ((desk.release delivery).settle coin delivery.ticket delivery.established)
  | elapse (ms : Nat) : Step coin desk (.elapse ms) { desk with now := desk.now + ms }
  | take (request : Request) (isOpen : desk.dispatcher.closed = false) :
    Step coin desk (.take request (desk.take request).1) (desk.take request).2
  | close : Step coin desk .close desk.close
  | collect (ticket : Nat) :
    Step coin desk (.collect ticket (desk.collect ticket).1) (desk.collect ticket).2

/-- A course of incidents, the latest first, and the desk that it leads to. -/
inductive Course (coin : Nat → Bool) (start : Desk) : List Incident → Desk → Prop
  | start : Course coin start [] start
  | step {past : List Incident} {desk next : Desk} {incident : Incident}
    (course : Course coin start past desk) (step : Step coin desk incident next) :
    Course coin start (incident :: past) next

namespace Incident

def establishes : Incident → Bool
  | .deliver notice => Notice.establishes notice
  | _ => false

def taken? : Incident → Option Request
  | .take request true => some request
  | _ => none

def answer? : Incident → Option Dispatched
  | .collect _ answer => answer
  | _ => none

end Incident

/-- The results of all deliveries that are finished, handed out or not. -/
def results (past : List Incident) (desk : Desk) : List Dispatched :=
  desk.finished.map Prod.snd ++ past.filterMap Incident.answer?

def taken (past : List Incident) : List Request := past.filterMap Incident.taken?

section deliver
variable (coin : Nat → Bool) (desk : Desk) {notice : List UInt8}

theorem deliver_quiet (quiet : Notice.establishes notice = false) :
    ∃ result, result.request? = none ∧
      desk.deliver coin notice =
        ({ desk with tickets := desk.tickets + 1 }.record (Event.ofArrival notice)).finish
          desk.tickets result := by
  obtain ⟨result, none, arrived⟩ := desk.dispatcher.arrive_quiet quiet
  refine ⟨result, none, ?_⟩
  simp only [deliver, arrived]

def counted (desk : Desk) (notice : List UInt8) : Desk :=
  { desk with
    dispatcher := { desk.dispatcher with tracker := desk.dispatcher.tracker.increment }
    tickets := desk.tickets + 1 }.record (Event.ofArrival notice)

def delayed (desk : Desk) : Delivery where
  ticket := desk.tickets
  due := desk.now + desk.dispatcher.settleMs
  established := desk.dispatcher.tracker.established + 1

theorem deliver_establishing (establishes : Notice.establishes notice = true) :
    desk.deliver coin notice =
      if desk.dispatcher.settleMs = 0 then
        (desk.counted notice).settle coin desk.tickets (desk.dispatcher.tracker.established + 1)
      else { desk.counted notice with settling := desk.settling ++ [desk.delayed] } := by
  simp only [deliver, desk.dispatcher.arrive_of_establishes establishes]
  rfl

end deliver

/-- The tickets of deliveries that are not handed out yet. -/
def held (desk : Desk) : List Nat :=
  desk.finished.map Prod.fst ++ desk.settling.map Delivery.ticket

structure Kept (mode : Mode) (past : List Incident) (desk : Desk) : Prop where
  mode : desk.dispatcher.mode = mode
  arrivals : desk.dispatcher.tracker.established = past.countP Incident.establishes
  balanced : desk.dispatcher.Balanced (results past desk) (taken past) desk.settling.length
  distinct : desk.held.Nodup
  given : ∀ ticket ∈ desk.held, ticket < desk.tickets

theorem collect_perm {finished : List (Nat × Dispatched)} (ticket : Nat)
    (distinct : (finished.map Prod.fst).Nodup) :
    finished.Perm ((finished.find? fun entry => entry.1 = ticket).toList ++
      finished.filter fun entry => entry.1 ≠ ticket) := by
  induction finished with
  | nil => exact .refl _
  | cons entry finished ih =>
    obtain ⟨fresh, distinct⟩ := List.nodup_cons.mp distinct
    by_cases own : entry.1 = ticket
    · -- tickets are distinct, so the filter keeps all the rest
      have others : ∀ other ∈ finished, decide (other.1 ≠ ticket) = true := by
        intro other mem
        apply decide_eq_true
        intro same
        exact fresh (List.mem_map.mpr ⟨other, mem, same.trans own.symm⟩)
      rw [List.find?_cons_of_pos (by simp [own]), List.filter_cons_of_neg (by simp [own]),
        List.filter_eq_self.mpr others]
      exact .refl _
    · rw [List.find?_cons_of_neg (by simp [own]), List.filter_cons_of_pos (by simp [own])]
      exact ((ih distinct).cons entry).trans List.perm_middle.symm

namespace Kept
variable {coin : Nat → Bool} {mode : Mode} {past : List Incident} {desk : Desk}

theorem new (mode : Mode) (settleMs : Nat) : Kept mode [] { dispatcher := { mode, settleMs } } :=
  ⟨rfl, rfl, balanced_new mode settleMs, List.nodup_nil, nofun⟩

theorem fresh (kept : Kept mode past desk) : desk.tickets ∉ desk.held := by
  intro mem
  exact Nat.lt_irrefl _ (kept.given _ mem)

theorem deliver (kept : Kept mode past desk) (notice : List UInt8) :
    Kept mode (.deliver notice :: past) (desk.deliver coin notice) := by
  have fresh := kept.fresh
  obtain ⟨same, arrivals, balanced, distinct, given⟩ := kept
  have later : ∀ ticket ∈ desk.tickets :: desk.held, ticket < desk.tickets + 1 := by
    intro ticket mem
    rcases List.mem_cons.mp mem with rfl | mem
    · exact Nat.lt_succ_self _
    · exact Nat.lt_succ_of_lt (given ticket mem)
  have apart : (desk.tickets :: desk.held).Nodup := List.nodup_cons.mpr ⟨fresh, distinct⟩
  cases establishes : Notice.establishes notice with
  | false =>
    obtain ⟨result, none, delivered⟩ := desk.deliver_quiet coin establishes
    rw [delivered]
    refine ⟨same, ?_, balanced.aside none, apart, later⟩
    rw [List.countP_cons_of_neg (by simp [Incident.establishes, establishes])]
    exact arrivals
  | true =>
    have counts : desk.dispatcher.tracker.established + 1 =
        (Incident.deliver notice :: past).countP Incident.establishes := by
      rw [List.countP_cons_of_pos (by simp [Incident.establishes, establishes]), arrivals]
    rw [desk.deliver_establishing coin establishes]
    split
    · refine ⟨(settle_mode coin _).trans same, ?_, balanced.arrived.settled coin, apart, later⟩
      refine Eq.trans ?_ counts
      exact congrArg Tracker.established (settle_tracker coin _)
    · have held : (desk.finished.map Prod.fst ++
          (desk.settling ++ [desk.delayed]).map Delivery.ticket).Perm
          (desk.tickets :: desk.held) := by
        rw [List.map_append, ← List.append_assoc]
        exact List.perm_append_singleton _ _
      refine ⟨same, counts, ?_, held.nodup_iff.mpr apart,
        fun ticket mem => later ticket (held.mem_iff.mp mem)⟩
      have settles := balanced.arrived
      rw [← List.length_concat (a := desk.delayed), List.concat_eq_append] at settles
      exact settles

theorem finish (kept : Kept mode past desk) {delivery : Delivery}
    (waits : delivery ∈ desk.settling) :
    Kept mode (.finish delivery :: past)
      ((desk.release delivery).settle coin delivery.ticket delivery.established) := by
  obtain ⟨same, arrivals, balanced, distinct, given⟩ := kept
  have held : desk.held.Perm (delivery.ticket :: (desk.release delivery).held) := by
    have out := (List.perm_cons_erase waits).map Delivery.ticket
    exact (out.append_left _).trans List.perm_middle
  have length : desk.settling.length = (desk.settling.erase delivery).length + 1 :=
    (List.perm_cons_erase waits).length_eq
  rw [length] at balanced
  refine ⟨(settle_mode coin _).trans same, ?_, balanced.settled coin, held.nodup_iff.mp distinct,
    fun ticket mem => given ticket (held.mem_iff.mpr mem)⟩
  exact (congrArg Tracker.established (settle_tracker coin _)).trans arrivals

theorem take (kept : Kept mode past desk) (isOpen : desk.dispatcher.closed = false)
    (request : Request) :
    Kept mode (.take request (desk.take request).1 :: past) (desk.take request).2 := by
  obtain ⟨same, arrivals, balanced, distinct, given⟩ := kept
  refine ⟨(setPending_mode _ _ _).trans same, ?_, ?_, distinct, given⟩
  · exact (congrArg Tracker.established (setPending_tracker _ _ _)).trans arrivals
  · have took := balanced.took isOpen request
    have listed : taken (.take request (desk.take request).1 :: past) =
        (if desk.dispatcher.pending request then [request] else []) ++ taken past := by
      change taken (.take request (desk.dispatcher.pending request) :: past) = _
      cases desk.dispatcher.pending request <;> rfl
    rw [listed]
    exact took

theorem collect (kept : Kept mode past desk) (ticket : Nat) :
    Kept mode (.collect ticket (desk.collect ticket).1 :: past) (desk.collect ticket).2 := by
  obtain ⟨same, arrivals, balanced, distinct, given⟩ := kept
  have split := collect_perm ticket (List.nodup_append.mp distinct).1
  have fewer : (desk.collect ticket).2.held.Sublist desk.held :=
    ((List.filter_sublist.map Prod.fst).append_right _)
  refine ⟨same, arrivals, balanced.perm ?_, distinct.sublist fewer,
    fun other mem => given other (fewer.subset mem)⟩
  have handed : ((Incident.collect ticket (desk.collect ticket).1 :: past).filterMap
      Incident.answer?) =
        ((desk.finished.find? fun entry => entry.1 = ticket).toList.map Prod.snd) ++
        past.filterMap Incident.answer? := by
    change List.filterMap Incident.answer? (.collect ticket (Option.map Prod.snd _) :: past) = _
    cases desk.finished.find? fun entry => entry.1 = ticket <;> rfl
  have moved := (split.map Prod.snd).append_right (past.filterMap Incident.answer?)
  rw [List.map_append] at moved
  unfold results
  rw [handed, ← List.append_assoc]
  exact moved.trans (List.perm_append_comm.append_right _)

theorem step (kept : Kept mode past desk) {incident : Incident} {next : Desk}
    (step : Step coin desk incident next) : Kept mode (incident :: past) next := by
  cases step with
  | deliver notice => exact kept.deliver notice
  | finish waits => exact kept.finish waits
  | elapse => exact ⟨kept.mode, kept.arrivals, kept.balanced, kept.distinct, kept.given⟩
  | take request isOpen => exact kept.take isOpen request
  | close => exact ⟨kept.mode, kept.arrivals, kept.balanced.shut, kept.distinct, kept.given⟩
  | collect ticket => exact kept.collect ticket

end Kept

namespace Course
variable {coin : Nat → Bool} {start desk : Desk} {past : List Incident}

theorem kept {mode : Mode} {settleMs : Nat}
    (course : Course coin { dispatcher := { mode, settleMs } } past desk) :
    Kept mode past desk := by
  induction course with
  | start => exact .new mode settleMs
  | step _ step ih => exact ih.step step

theorem wait (course : Course coin start past desk) {time : Nat} (later : desk.now ≤ time) :
    ∃ more, Course coin start (more ++ past) { desk with now := time } := by
  refine ⟨[.elapse (time - desk.now)], ?_⟩
  have elapsed := course.step (.elapse (time - desk.now))
  rw [Nat.add_sub_cancel' later] at elapsed
  exact elapsed

/-- What is drained no longer depends on the queue that the desk itself records. -/
theorem drain_settling (time : Nat) (queue other : List Delivery) (desk : Desk) :
    drain coin time queue { desk with settling := other } = drain coin time queue desk := by
  induction queue generalizing desk with
  | nil => rfl
  | cons delivery queue ih =>
    unfold drain
    split
    · exact ih (({ desk with now := max desk.now delivery.due } : Desk).settle coin delivery.ticket
        delivery.established)
    · rfl

theorem drain {time : Nat} (queue : List Delivery)
    (course : Course coin start past { desk with settling := queue }) (early : desk.now ≤ time) :
    ∃ more,
      Course coin start (more ++ past) { Desk.drain coin time queue desk with now := time } := by
  induction queue generalizing desk past with
  | nil => exact course.wait early
  | cons delivery queue ih =>
    unfold Desk.drain
    split
    · rename_i due
      obtain ⟨more, waited⟩ := course.wait (Nat.le_max_left desk.now delivery.due)
      have finished := waited.step (.finish List.mem_cons_self (Nat.le_max_right _ _))
      unfold release at finished
      rw [List.erase_cons_head] at finished
      have within : max desk.now delivery.due ≤ time := Nat.max_le.mpr ⟨early, due⟩
      -- the desk's own queue follows the one that is drained, head by head
      let after : Desk := settle coin { desk with now := max desk.now delivery.due }
        delivery.ticket delivery.established
      obtain ⟨most, drained⟩ := @ih after _ finished within
      exact ⟨most ++ .finish delivery :: more, by simpa using drained⟩
    · exact course.wait early

theorem advance (course : Course coin start past desk) (ms : Nat) :
    ∃ more, Course coin start (more ++ past) (desk.advance coin ms) :=
  course.drain desk.settling (Nat.le_add_right _ _)

theorem dispatch (course : Course coin start past desk) (notice : List UInt8) :
    ∃ more, Course coin start (more ++ past) (desk.dispatch coin notice) := by
  have delivered := course.step (.deliver notice)
  unfold Desk.dispatch
  dsimp only
  split
  · exact ⟨[.deliver notice], delivered⟩
  · obtain ⟨more, advanced⟩ := delivered.advance (desk.deliver coin notice).dispatcher.settleMs
    exact ⟨more ++ [.deliver notice], by simpa using advanced⟩

end Course

theorem Step.finishing {coin : Nat → Bool} {desk next : Desk} {incident : Incident}
    (step : Step coin desk incident next) {ticket : Nat} {result : Dispatched}
    (fresh : next.finished = (ticket, result) :: desk.finished) (request : Request) :
    (result = .dropped request →
        desk.dispatcher.pending request = true ∨ desk.dispatcher.closed = true) ∧
      (result.request? = some request →
        next.dispatcher.pending request = true ∨ next.dispatcher.closed = true) := by
  have grown : desk.finished ≠ (ticket, result) :: desk.finished := (List.cons_ne_self _ _).symm
  cases step with
  | deliver notice =>
    cases establishes : Notice.establishes notice with
    | false =>
      obtain ⟨other, none, delivered⟩ := desk.deliver_quiet coin establishes
      rw [delivered] at fresh
      obtain ⟨⟨-, rfl⟩, -⟩ := List.cons.inj fresh
      cases result with
      | ignored | surfaced => exact ⟨nofun, nofun⟩
      | posted | dropped => cases none
    | true =>
      rw [desk.deliver_establishing coin establishes] at fresh ⊢
      split at fresh
      · rename_i instant
        obtain ⟨⟨-, rfl⟩, -⟩ := List.cons.inj fresh
        rw [if_pos instant]
        have full := settle_full coin (desk.counted notice).dispatcher request
        have same : (desk.counted notice).dispatcher.pending request =
            desk.dispatcher.pending request := by
          cases request <;> rfl
        rw [same] at full
        exact full
      · exact absurd fresh grown
  | finish waits due =>
    obtain ⟨⟨-, rfl⟩, -⟩ := List.cons.inj fresh
    exact settle_full coin desk.dispatcher request
  | collect other =>
    have fewer := List.length_filter_le (fun entry => entry.1 ≠ other) desk.finished
    have length := congrArg List.length fresh
    change (desk.finished.filter _).length = _ at length
    rw [List.length_cons] at length
    omega
  | elapse | take | close => exact absurd fresh grown

structure Conserved (coin : Nat → Bool) (mode : Mode) (past : List Incident) (desk : Desk) :
    Prop where
  arrivals : desk.dispatcher.tracker.established = past.countP Incident.establishes
  settled : desk.dispatcher.tracker.established =
    posted (results past desk) + dropped (results past desk) + desk.settling.length
  slots : desk.dispatcher.closed = false → ∀ request,
    (results past desk).count (.posted request) =
      (taken past).count request + (desk.dispatcher.pending request).toNat
  finishing : ∀ incident next, Step coin desk incident next →
    ∀ ticket result, next.finished = (ticket, result) :: desk.finished → ∀ request,
      (result = .dropped request →
          desk.dispatcher.pending request = true ∨ desk.dispatcher.closed = true) ∧
        (result.request? = some request →
          next.dispatcher.pending request = true ∨ next.dispatcher.closed = true)
  reconnecting : mode = .reconnectTunnel →
    .posted .restart ∉ results past desk ∧ .dropped .restart ∉ results past desk ∧
      desk.dispatcher.restart = false
  restarting : mode = .restartController →
    .posted .reconnect ∉ results past desk ∧ .dropped .reconnect ∉ results past desk ∧
      desk.dispatcher.reconnect = false
  flips : desk.dispatcher.flips =
    if mode = .reconnectAndRestart then
      posted (results past desk) + dropped (results past desk)
    else 0

/-- Along every course each establishment is settling or has its one result, requests are posted
as often as they are taken or pending, and a request is dropped only for want of room. -/
theorem establishments_conserved {coin : Nat → Bool} {mode : Mode} {settleMs : Nat}
    {past : List Incident} {desk : Desk}
    (course : Course coin { dispatcher := { mode, settleMs } } past desk) :
    Conserved coin mode past desk := by
  obtain ⟨same, arrivals, balanced, -, -⟩ := course.kept
  obtain ⟨established, slots, unmade, flips⟩ := balanced
  rw [same] at unmade flips
  refine
    { arrivals, settled := established, slots
      finishing := fun incident next step ticket result fresh => step.finishing fresh
      reconnecting := ?_, restarting := ?_, flips := ?_ }
  · rintro rfl
    obtain ⟨none, lost, empty⟩ := unmade .restart rfl
    exact ⟨List.count_eq_zero.mp none, List.count_eq_zero.mp lost, empty⟩
  · rintro rfl
    obtain ⟨none, lost, empty⟩ := unmade .reconnect rfl
    exact ⟨List.count_eq_zero.mp none, List.count_eq_zero.mp lost, empty⟩
  · rw [flips]
    cases mode <;> simp [Mode.flipsEach]

theorem burst_is_conserved : ∃ past desk,
    Course (fun _ => false) { dispatcher := { mode := .reconnectTunnel, settleMs := 250 } }
      past desk ∧
    desk.finished = [(1, .dropped .reconnect), (0, .posted .reconnect)] ∧
    Conserved (fun _ => false) .reconnectTunnel past desk := by
  let notice := Simulation.tunnelsNotice 1
  obtain ⟨more, course⟩ :=
    ((Course.start.step (.deliver notice)).step (.deliver notice)).advance 250
  exact ⟨_, _, course, by decide +kernel, establishments_conserved course⟩

end TunnelSoak.Dispatcher.Desk
