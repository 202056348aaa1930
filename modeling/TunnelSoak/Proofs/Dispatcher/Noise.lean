import TunnelSoak.Proofs.Dispatcher.Echo

/-! Noise does not interfere. A caller plays a history of moves to a desk and keeps its
deliveries apart by labels of its own, so a history without some of its deliveries is a
history again. Where those establish nothing, all other moves see the same with them and
without them. -/
namespace TunnelSoak.Dispatcher

structure Caller where
  desk : Desk
  ticketOf : Nat → Option Nat := fun _ => none

inductive Move where
  /-- A delivery on a task of its own. -/
  | deliver (label : Nat) (notice : List UInt8)
  /-- A delivery that is waited for. -/
  | dispatch (label : Nat) (notice : List UInt8)
  | collect (label : Nat)
  /-- The delivery at this place of the queue finishes, where it is due. -/
  | finish (place : Nat)
  | elapse (ms : Nat)
  /-- Time passes, and what comes due by then finishes. -/
  | advance (ms : Nat)
  | take (request : Request)
  | close
  deriving DecidableEq, Repr

inductive Answer where
  | nothing
  | result (result : Option Dispatched)
  | taken (full : Bool)
  deriving DecidableEq, Repr

structure Sight where
  answer : Answer
  dispatcher : Dispatcher
  now : Nat
  deriving DecidableEq, Repr

namespace Caller

def fresh (mode : Mode) (settleMs : Nat) : Caller where
  desk := { dispatcher := { mode, settleMs } }

def look (caller : Caller) (label : Nat) : Answer × Caller :=
  match caller.ticketOf label with
  | some ticket =>
    (.result (caller.desk.answer ticket), { caller with desk := (caller.desk.collect ticket).2 })
  | none => (.nothing, caller)

def label (caller : Caller) (label : Nat) (desk : Desk) : Caller where
  desk := desk
  ticketOf other := if other = label then some caller.desk.tickets else caller.ticketOf other

def perform (coin : Nat → Bool) (caller : Caller) : Move → Answer × Caller
  | .deliver label notice => (.nothing, caller.label label (caller.desk.deliver coin notice))
  | .dispatch label notice => (caller.label label (caller.desk.dispatch coin notice)).look label
  | .collect label => caller.look label
  | .finish place => (.nothing, { caller with desk := caller.desk.finishAt coin place })
  | .elapse ms => (.nothing, { caller with desk.now := caller.desk.now + ms })
  | .advance ms => (.nothing, { caller with desk := caller.desk.advance coin ms })
  | .take request =>
    (.taken (caller.desk.take request).1, { caller with desk := (caller.desk.take request).2 })
  | .close => (.nothing, { caller with desk := caller.desk.close })

/-- The moves of a history with what is seen after each of them. -/
def watch (coin : Nat → Bool) (caller : Caller) : List Move → List (Move × Sight)
  | [] => []
  | move :: history =>
    let (answer, next) := caller.perform coin move
    (move, ⟨answer, next.desk.dispatcher, next.desk.now⟩) :: watch coin next history

theorem watch_cons (coin : Nat → Bool) (caller : Caller) (move : Move) (history : List Move) :
    caller.watch coin (move :: history) =
      (move, ⟨(caller.perform coin move).1, (caller.perform coin move).2.desk.dispatcher,
          (caller.perform coin move).2.desk.now⟩) ::
        (caller.perform coin move).2.watch coin history := rfl

end Caller

namespace Move

def isFor (labels : Nat → Bool) : Move → Bool
  | .deliver label _ => labels label
  | .dispatch label _ => labels label
  | .collect label => labels label
  | _ => false

def establishes : Move → Bool
  | .deliver _ notice => Notice.establishes notice
  | .dispatch _ notice => Notice.establishes notice
  | _ => false

end Move

namespace Caller
variable {labels : Nat → Bool} {f : Nat → Nat} {plain noisy : Caller} (coin : Nat → Bool)

/-- The noisy caller has made all the deliveries of the plain one, and others under labels
that are its own. -/
structure Echoes (labels : Nat → Bool) (f : Nat → Nat) (plain noisy : Caller) : Prop where
  desk : Desk.Echoes f plain.desk noisy.desk
  tickets : ∀ label, labels label = false → noisy.ticketOf label = (plain.ticketOf label).map f
  given : ∀ label ticket, labels label = false → plain.ticketOf label = some ticket →
    ticket < plain.desk.tickets
  spare : ∀ label ticket, labels label = true → noisy.ticketOf label = some ticket →
    ticket < noisy.desk.tickets ∧ ∀ other < plain.desk.tickets, f other ≠ ticket

namespace Echoes
variable (echoes : Echoes labels f plain noisy)
include echoes

theorem carry {calm loud : Desk} (desk : Desk.Echoes f calm loud)
    (tickets : calm.tickets = plain.desk.tickets ∧ loud.tickets = noisy.desk.tickets) :
    Echoes labels f { plain with desk := calm } { noisy with desk := loud } := by
  obtain ⟨-, same, given, spare⟩ := echoes
  refine ⟨desk, same, ?_, ?_⟩ <;> simp only [tickets] <;> assumption

theorem label {label : Nat} (own : labels label = false) {calm loud : Desk}
    (desk : Desk.Echoes (Desk.issued f plain.desk noisy.desk) calm loud)
    (tickets : calm.tickets = plain.desk.tickets + 1 ∧ loud.tickets = noisy.desk.tickets + 1) :
    Echoes labels (Desk.issued f plain.desk noisy.desk) (plain.label label calm)
      (noisy.label label loud) := by
  obtain ⟨old, same, given, spare⟩ := echoes
  refine ⟨desk, ?_, ?_, ?_⟩
  · intro other mine
    by_cases new : other = label
    · simp [Caller.label, new, Desk.issued]
    · simp only [Caller.label, if_neg new, same other mine]
      cases found : plain.ticketOf other with
      | none => rfl
      | some ticket =>
        exact congrArg some (if_neg (Nat.ne_of_lt (given other ticket mine found))).symm
  · intro other ticket mine found
    change ticket < calm.tickets
    rw [tickets.1]
    by_cases new : other = label
    · simp only [Caller.label, if_pos new, Option.some.injEq] at found
      exact found ▸ Nat.lt_succ_self _
    · simp only [Caller.label, if_neg new] at found
      exact Nat.lt_succ_of_lt (given other ticket mine found)
  · intro other ticket foreign found
    change ticket < loud.tickets ∧ ∀ mine < calm.tickets, _
    have apart : other ≠ label := fun new => by
      rw [new, own] at foreign
      cases foreign
    simp only [Caller.label, if_neg apart] at found
    obtain ⟨within, free⟩ := spare other ticket foreign found
    rw [tickets.1, tickets.2]
    refine ⟨Nat.lt_succ_of_lt within, fun mine known => ?_⟩
    unfold Desk.issued
    split
    · exact Nat.ne_of_gt within
    · exact free mine (Nat.lt_of_le_of_ne (Nat.le_of_lt_succ known) ‹_›)

theorem aside {label : Nat} (foreign : labels label = true) {loud : Desk}
    (desk : Desk.Echoes f plain.desk loud) (tickets : loud.tickets = noisy.desk.tickets + 1) :
    Echoes labels f plain (noisy.label label loud) := by
  obtain ⟨old, same, given, spare⟩ := echoes
  refine ⟨desk, ?_, given, ?_⟩
  · intro other mine
    have apart : other ≠ label := fun new => by
      rw [new, foreign] at mine
      cases mine
    simp only [Caller.label, if_neg apart, same other mine]
  · intro other ticket strange found
    change ticket < loud.tickets ∧ _
    rw [tickets]
    by_cases new : other = label
    · simp only [Caller.label, if_pos new, Option.some.injEq] at found
      subst found
      exact ⟨Nat.lt_succ_self _, fun mine known => Nat.ne_of_lt (old.given mine known)⟩
    · simp only [Caller.label, if_neg new] at found
      obtain ⟨within, free⟩ := spare other ticket strange found
      exact ⟨Nat.lt_succ_of_lt within, free⟩

theorem look {label : Nat} (own : labels label = false) :
    (noisy.look label).1 = (plain.look label).1 ∧
      Echoes labels f (plain.look label).2 (noisy.look label).2 := by
  unfold Caller.look
  rw [echoes.tickets label own]
  cases found : plain.ticketOf label with
  | none => exact ⟨rfl, echoes⟩
  | some ticket =>
    have given := echoes.given label ticket own found
    exact ⟨congrArg Answer.result (echoes.desk.answers ticket given),
      echoes.carry (echoes.desk.collect given) ⟨rfl, rfl⟩⟩

theorem peek {label : Nat} (foreign : labels label = true) :
    Echoes labels f plain (noisy.look label).2 := by
  unfold Caller.look
  split
  · rename_i ticket found
    have free := (echoes.spare label ticket foreign found).2
    exact echoes.carry (echoes.desk.peek free) ⟨rfl, rfl⟩
  · exact echoes

theorem perform (move : Move) (own : move.isFor labels = false) :
    (noisy.perform coin move).1 = (plain.perform coin move).1 ∧
      ∃ g, Echoes labels g (plain.perform coin move).2 (noisy.perform coin move).2 := by
  have desk := echoes.desk
  cases move with
  | deliver label notice =>
    exact ⟨rfl, _, echoes.label own (desk.deliver coin notice)
      ⟨Desk.deliver_tickets coin _ notice, Desk.deliver_tickets coin _ notice⟩⟩
  | dispatch label notice =>
    have waited := echoes.label own (desk.dispatch coin notice)
      ⟨Desk.dispatch_tickets coin _ notice, Desk.dispatch_tickets coin _ notice⟩
    obtain ⟨same, looked⟩ := waited.look own
    exact ⟨same, _, looked⟩
  | collect label =>
    obtain ⟨same, looked⟩ := echoes.look own
    exact ⟨same, f, looked⟩
  | finish place =>
    exact ⟨rfl, f, echoes.carry (desk.finishAt coin place)
      ⟨Desk.finishAt_tickets coin _ place, Desk.finishAt_tickets coin _ place⟩⟩
  | elapse ms =>
    exact ⟨rfl, f, echoes.carry (desk.carry desk.dispatcher (congrArg (· + ms) desk.now)
      desk.settling desk.waiting ⟨⟨rfl, rfl⟩, rfl, rfl⟩) ⟨rfl, rfl⟩⟩
  | advance ms =>
    exact ⟨rfl, f, echoes.carry (desk.advance coin ms)
      ⟨Desk.drain_tickets coin _ _ _, Desk.drain_tickets coin _ _ _⟩⟩
  | take request =>
    have same := congrArg (Dispatcher.take · request) desk.dispatcher
    have taken := congrArg Prod.fst same
    exact ⟨congrArg Answer.taken taken, f,
      echoes.carry (desk.carry (congrArg Prod.snd same) desk.now desk.settling desk.waiting
        ⟨⟨rfl, rfl⟩, rfl, rfl⟩) ⟨rfl, rfl⟩⟩
  | close =>
    exact ⟨rfl, f, echoes.carry (desk.carry (congrArg Dispatcher.close desk.dispatcher) desk.now
      desk.settling desk.waiting ⟨⟨rfl, rfl⟩, rfl, rfl⟩) ⟨rfl, rfl⟩⟩

theorem ignore (move : Move) (foreign : move.isFor labels = true)
    (noise : move.establishes = false) :
    Echoes labels f plain (noisy.perform coin move).2 := by
  have delivered {label : Nat} {notice : List UInt8} (foreign : labels label = true)
      (noise : Notice.establishes notice = false) :
      Echoes labels f plain (noisy.label label (noisy.desk.deliver coin notice)) :=
    echoes.aside foreign (echoes.desk.skip coin noise) (Desk.deliver_tickets coin _ notice)
  cases move with
  | deliver label notice => exact delivered foreign noise
  | dispatch label notice =>
    change Echoes labels f plain
      ((noisy.label label (noisy.desk.dispatch coin notice)).look label).2
    rw [Desk.dispatch_noise coin _ noise]
    exact (delivered foreign noise).peek foreign
  | collect label => exact echoes.peek foreign
  | finish | elapse | advance | take | close => cases foreign

theorem watch (history : List Move)
    (noise : ∀ move ∈ history, move.isFor labels = true → move.establishes = false) :
    plain.watch coin (history.filter fun move => !move.isFor labels) =
      (noisy.watch coin history).filter fun seen => !seen.1.isFor labels := by
  induction history generalizing f plain noisy with
  | nil => rfl
  | cons move history ih =>
    obtain ⟨now, later⟩ := List.forall_mem_cons.mp noise
    rw [watch_cons]
    cases foreign : move.isFor labels with
    | true =>
      rw [List.filter_cons_of_neg (by simp [foreign]), List.filter_cons_of_neg (by simp [foreign])]
      exact ih (echoes.ignore coin move foreign (now foreign)) later
    | false =>
      obtain ⟨same, g, next⟩ := echoes.perform coin move foreign
      rw [List.filter_cons_of_pos (by simp [foreign]), List.filter_cons_of_pos (by simp [foreign]),
        watch_cons, ih next later, same, next.desk.dispatcher, next.desk.now]

end Echoes

/-- A delivery that is over as soon as it is made, and leaves the dispatcher, the time and the
other deliveries as they were. -/
structure Passes (coin : Nat → Bool) (caller : Caller) (label : Nat) (notice : List UInt8)
    (result : Dispatched) : Prop where
  awaited : (caller.perform coin (.dispatch label notice)).1 = .result (some result)
  collected :
    ((caller.perform coin (.deliver label notice)).2.perform coin (.collect label)).1 =
      .result (some result)
  still : ∀ move ∈ [Move.deliver label notice, Move.dispatch label notice],
    (caller.perform coin move).2.desk.dispatcher = caller.desk.dispatcher ∧
      (caller.perform coin move).2.desk.now = caller.desk.now ∧
      (caller.perform coin move).2.desk.settling = caller.desk.settling

theorem passes_noise (coin : Nat → Bool) (caller : Caller) (label : Nat) {notice : List UInt8}
    (noise : Notice.establishes notice = false) :
    caller.Passes coin label notice (Notice.reaction notice) := by
  have delivered := caller.desk.deliver_noise coin noise
  have looked : ((caller.label label (caller.desk.deliver coin notice)).look label).1 =
      .result (some (Notice.reaction notice)) := by
    simp only [Caller.look, Caller.label, if_true, delivered, Desk.answer_finish]
  have still : (caller.perform coin (.dispatch label notice)).2.desk =
      ((caller.desk.deliver coin notice).collect caller.desk.tickets).2 := by
    simp only [Caller.perform, Caller.look, Caller.label, if_true, Desk.dispatch_noise coin _ noise]
  refine ⟨?_, looked, ?_⟩
  · unfold Caller.perform
    rw [← looked, ← Desk.dispatch_noise coin _ noise]
  · intro move made
    simp only [List.mem_cons, List.not_mem_nil, or_false] at made
    rcases made with rfl | rfl
    · change (caller.desk.deliver coin notice).dispatcher = _ ∧
        (caller.desk.deliver coin notice).now = _ ∧ (caller.desk.deliver coin notice).settling = _
      rw [delivered]
      exact ⟨rfl, rfl, rfl⟩
    · rw [still, delivered]
      exact ⟨rfl, rfl, rfl⟩

/-- A history with deliveries of noise left out shows all other moves what the whole history
shows them, and each of those deliveries comes to its result at once. -/
theorem noise_does_not_interfere (mode : Mode) (settleMs : Nat) (coin : Nat → Bool)
    (labels : Nat → Bool) (history : List Move)
    (noise : ∀ move ∈ history, move.isFor labels = true → move.establishes = false) :
    (fresh mode settleMs).watch coin (history.filter fun move => !move.isFor labels) =
        ((fresh mode settleMs).watch coin history).filter (fun seen => !seen.1.isFor labels) ∧
      ∀ notice, Notice.establishes notice = false →
        ∃ result, (result = .surfaced ∧ Notice.TellsPeak notice ∨
            result = .ignored ∧ ¬ Notice.TellsPeak notice) ∧
          ∀ caller label, Passes coin caller label notice result := by
  constructor
  · have start : Echoes labels id (fresh mode settleMs) (fresh mode settleMs) :=
      ⟨.new _, fun _ _ => rfl, nofun, nofun⟩
    exact start.watch coin history noise
  · intro notice silent
    exact ⟨_, Notice.reaction_cases notice,
      fun caller label => passes_noise coin caller label silent⟩

/-- Noise between two tunnels in their settle delay, and after the loop is gone. -/
def murmur : List Move := [
  .deliver 0 (Simulation.tunnelsNotice 1), .deliver 7 [123], .advance 100,
  .dispatch 8 (Notice.encode (.info Notice.peakPhrase none)),
  .deliver 1 (Simulation.tunnelsNotice 2), .dispatch 9 (Notice.encode (.tunnels 0 none)),
  .advance 150, .collect 0, .collect 7, .take .restart, .close, .dispatch 8 [],
  .advance 100, .collect 1]

theorem murmur_does_not_interfere :
    (∀ move ∈ murmur, move.isFor (decide <| 7 ≤ ·) = true → move.establishes = false) ∧
      (fresh .reconnectAndRestart 250).watch (· % 2 = 0)
          (murmur.filter fun move => !move.isFor (decide <| 7 ≤ ·)) =
        ((fresh .reconnectAndRestart 250).watch (· % 2 = 0) murmur).filter
          (fun seen => !seen.1.isFor (decide <| 7 ≤ ·)) ∧
      ((fresh .reconnectAndRestart 250).watch (· % 2 = 0) murmur).map (·.2.answer) =
        [.nothing, .nothing, .nothing, .result (some .surfaced), .nothing,
          .result (some .ignored), .nothing, .result (some (.posted .restart)),
          .result (some .ignored), .taken true, .nothing, .result (some .ignored), .nothing,
          .result (some (.dropped .reconnect))] := by
  have noise : ∀ move ∈ murmur, move.isFor (decide <| 7 ≤ ·) = true →
      move.establishes = false := by decide +kernel
  exact ⟨noise, (noise_does_not_interfere _ _ _ _ _ noise).1, by decide +kernel⟩

end Caller

end TunnelSoak.Dispatcher
