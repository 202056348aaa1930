import TunnelSoak.Proofs.Dispatcher.Conservation

/-! What noise leaves behind at a desk. A notice that establishes nothing is over at once and
uses up a ticket. So a desk with noise echoes the desk without: the same dispatcher, the
same time, the same deliveries in the same order, and for each ticket of the one a ticket of
the other that shows the same. Every operation keeps this up. -/
namespace TunnelSoak

namespace Notice

theorem contains_iff (phrase text : List Char) :
    contains phrase text = true ↔ phrase <:+: text := by
  induction text with
  | nil => rw [contains, List.isEmpty_iff, List.infix_nil]
  | cons c text ih =>
    rw [contains, Bool.or_eq_true, List.isPrefixOf_iff_prefix, ih, List.infix_cons_iff]

def TellsPeak (notice : List UInt8) : Prop :=
  ∃ n message, decode notice = .ok n ∧ n.type = "Info" ∧
    n.data.find? "message" = some (.string message) ∧
    (peakPhrase.toList <:+: message.toList ∨ meekPeakPhrase.toList <:+: message.toList)

/-- What comes of a notice that establishes nothing. -/
def reaction (notice : List UInt8) : Dispatched :=
  match classify notice with
  | some (.info message) => if isPeakMessage message then .surfaced else .ignored
  | _ => .ignored

theorem classify_eq_info {notice : List UInt8} {message : String} :
    classify notice = some (.info message) ↔
      ∃ n, decode notice = .ok n ∧ n.type = "Info" ∧
        n.data.find? "message" = some (.string message) := by
  constructor
  · intro classified
    unfold classify at classified
    split at classified
    · rename_i n decoded
      refine ⟨n, decoded, ?_⟩
      unfold meaning at classified
      split at classified
      · split at classified <;> cases classified
      · split at classified
        · rename_i info
          split at classified
          · rename_i found
            cases classified
            exact ⟨info, found⟩
          · cases classified
        · cases classified
    · cases classified
  · rintro ⟨n, decoded, info, found⟩
    simp [classify, decoded, meaning, info, found]

theorem reaction_cases (notice : List UInt8) :
    (reaction notice = .surfaced ∧ TellsPeak notice) ∨
      (reaction notice = .ignored ∧ ¬ TellsPeak notice) := by
  have tells : TellsPeak notice ↔
      ∃ message, classify notice = some (.info message) ∧ isPeakMessage message = true := by
    simp only [isPeakMessage, Bool.or_eq_true, contains_iff, classify_eq_info, TellsPeak]
    constructor
    · rintro ⟨n, message, decoded, info, found, phrase⟩
      exact ⟨message, ⟨n, decoded, info, found⟩, phrase⟩
    · rintro ⟨message, ⟨n, decoded, info, found⟩, phrase⟩
      exact ⟨n, message, decoded, info, found, phrase⟩
  rw [tells]
  unfold reaction
  split
  · rename_i message classified
    cases peak : isPeakMessage message with
    | true => exact .inl ⟨rfl, message, classified, peak⟩
    | false => exact .inr ⟨rfl, fun ⟨other, again, loud⟩ => by simp_all⟩
  · rename_i plain
    exact .inr ⟨rfl, fun ⟨message, classified, _⟩ => plain message classified⟩

end Notice

namespace Dispatcher

theorem arrive_noise (d : Dispatcher) {notice : List UInt8}
    (noise : Notice.establishes notice = false) :
    d.arrive notice = (.finished (Notice.reaction notice), d) := by
  unfold Notice.establishes at noise
  unfold arrive Notice.reaction
  split
  · rename_i count classified
    simp only [classified, decide_eq_false_iff_not] at noise
    simp only [classified]
    exact if_neg noise
  all_goals simp only [*]

def Delivery.renamed (f : Nat → Nat) (delivery : Delivery) : Delivery :=
  { delivery with ticket := f delivery.ticket }

namespace Desk

def answer (desk : Desk) (ticket : Nat) : Option Dispatched := (desk.collect ticket).1

section answer
variable (desk : Desk) (ticket other : Nat)

theorem answer_finish (result : Dispatched) :
    (desk.finish other result).answer ticket =
      if other = ticket then some result else desk.answer ticket := by
  unfold answer collect finish
  by_cases same : other = ticket <;> simp [same]

theorem answer_collect :
    (desk.collect other).2.answer ticket =
      if ticket = other then none else desk.answer ticket := by
  unfold answer collect
  rw [List.find?_filter]
  by_cases same : ticket = other
  · subst same
    simp
  · rw [if_neg same]
    refine congrArg (fun sought => (desk.finished.find? sought).map Prod.snd)
      (funext fun entry => ?_)
    by_cases own : entry.1 = ticket <;> simp [own, same]

end answer

theorem deliver_noise (coin : Nat → Bool) (desk : Desk) {notice : List UInt8}
    (noise : Notice.establishes notice = false) :
    desk.deliver coin notice =
      ({ desk with tickets := desk.tickets + 1 }.record (Event.ofArrival notice)).finish
        desk.tickets (Notice.reaction notice) := by
  simp only [deliver, desk.dispatcher.arrive_noise noise]

def issued (f : Nat → Nat) (plain noisy : Desk) (ticket : Nat) : Nat :=
  if ticket = plain.tickets then noisy.tickets else f ticket

/-- The delivery at this place of the queue finishes, where it is due. -/
def finishAt (coin : Nat → Bool) (desk : Desk) (place : Nat) : Desk :=
  match desk.settling[place]? with
  | some delivery =>
    if delivery.due ≤ desk.now then
      settle coin { desk with settling := desk.settling.eraseIdx place } delivery.ticket
        delivery.established
    else desk
  | none => desk

/-- The noisy desk does what the plain one does, for the tickets that the plain one has
given out. -/
structure Echoes (f : Nat → Nat) (plain noisy : Desk) : Prop where
  dispatcher : noisy.dispatcher = plain.dispatcher
  now : noisy.now = plain.now
  settling : noisy.settling = plain.settling.map (Delivery.renamed f)
  waiting : ∀ delivery ∈ plain.settling, delivery.ticket < plain.tickets
  answers : ∀ ticket < plain.tickets, noisy.answer (f ticket) = plain.answer ticket
  given : ∀ ticket < plain.tickets, f ticket < noisy.tickets
  apart : ∀ ticket other, ticket < plain.tickets → other < plain.tickets → f ticket = f other →
    ticket = other
  fresh : ∀ ticket, (plain.tickets ≤ ticket → plain.answer ticket = none) ∧
    (noisy.tickets ≤ ticket → noisy.answer ticket = none)

namespace Echoes
variable {f : Nat → Nat} {plain noisy : Desk} (coin : Nat → Bool)

theorem new (d : Dispatcher) : Echoes id { dispatcher := d } { dispatcher := d } :=
  ⟨rfl, rfl, rfl, nofun, nofun, nofun, nofun, fun _ => ⟨fun _ => rfl, fun _ => rfl⟩⟩

section
variable (echoes : Echoes f plain noisy)
include echoes

theorem carry {calm loud : Desk} (dispatcher : loud.dispatcher = calm.dispatcher)
    (now : loud.now = calm.now) (settling : loud.settling = calm.settling.map (Delivery.renamed f))
    (waiting : ∀ delivery ∈ calm.settling, delivery.ticket < plain.tickets)
    (untouched : (calm.tickets = plain.tickets ∧ calm.finished = plain.finished) ∧
      loud.tickets = noisy.tickets ∧ loud.finished = noisy.finished) : Echoes f calm loud := by
  obtain ⟨⟨calmTickets, calmFinished⟩, loudTickets, loudFinished⟩ := untouched
  have calmAnswer (ticket : Nat) : calm.answer ticket = plain.answer ticket := by
    simp only [answer, collect, calmFinished]
  have loudAnswer (ticket : Nat) : loud.answer ticket = noisy.answer ticket := by
    simp only [answer, collect, loudFinished]
  obtain ⟨-, -, -, -, answers, given, apart, fresh⟩ := echoes
  refine ⟨dispatcher, now, settling, ?_, ?_, ?_, ?_, ?_⟩
  all_goals simp only [calmTickets, loudTickets, calmAnswer, loudAnswer]
  all_goals assumption

theorem finish {ticket : Nat} (given : ticket < plain.tickets) (result : Dispatched) :
    Echoes f (plain.finish ticket result) (noisy.finish (f ticket) result) := by
  refine ⟨echoes.dispatcher, echoes.now, echoes.settling, echoes.waiting, ?_, echoes.given,
    echoes.apart, fun other => ⟨fun late => ?_, fun late => ?_⟩⟩
  · intro other within
    rw [answer_finish, answer_finish, echoes.answers other within]
    by_cases same : ticket = other
    · rw [if_pos same, if_pos (congrArg f same)]
    · rw [if_neg same, if_neg (fun again => same (echoes.apart _ _ given within again))]
  · rw [answer_finish, if_neg (Nat.ne_of_lt (Nat.lt_of_lt_of_le given late))]
    exact (echoes.fresh other).1 late
  · rw [answer_finish, if_neg (Nat.ne_of_lt (Nat.lt_of_lt_of_le (echoes.given _ given) late))]
    exact (echoes.fresh other).2 late

theorem settle {ticket : Nat} (given : ticket < plain.tickets) (established : Nat) :
    Echoes f (plain.settle coin ticket established)
      (noisy.settle coin (f ticket) established) := by
  have same := congrArg (Dispatcher.settle coin) echoes.dispatcher
  have settled : Echoes f
      ({ plain with dispatcher := (plain.dispatcher.settle coin).2 }.record
        (Event.ofSettled established (plain.dispatcher.settle coin).1))
      ({ noisy with dispatcher := (noisy.dispatcher.settle coin).2 }.record
        (Event.ofSettled established (noisy.dispatcher.settle coin).1)) :=
    echoes.carry (congrArg Prod.snd same) echoes.now echoes.settling echoes.waiting
      ⟨⟨rfl, rfl⟩, rfl, rfl⟩
  have heard : noisy.settle coin (f ticket) established =
      ({ noisy with dispatcher := (noisy.dispatcher.settle coin).2 }.record
        (Event.ofSettled established (noisy.dispatcher.settle coin).1)).finish (f ticket)
          (plain.dispatcher.settle coin).1 :=
    congrArg (Desk.finish _ (f ticket)) (congrArg Prod.fst same)
  rw [heard]
  exact settled.finish given _

theorem collect {ticket : Nat} (given : ticket < plain.tickets) :
    Echoes f (plain.collect ticket).2 (noisy.collect (f ticket)).2 := by
  refine ⟨echoes.dispatcher, echoes.now, echoes.settling, echoes.waiting, ?_, echoes.given,
    echoes.apart, fun other => ⟨fun late => ?_, fun late => ?_⟩⟩
  · intro other within
    rw [answer_collect, answer_collect, echoes.answers other within]
    by_cases same : other = ticket
    · rw [if_pos same, if_pos (congrArg f same)]
    · rw [if_neg same, if_neg (fun again => same (echoes.apart _ _ within given again))]
  · rw [answer_collect, (echoes.fresh other).1 late, ite_self]
  · rw [answer_collect, (echoes.fresh other).2 late, ite_self]

theorem drain (time : Nat) {queue : List Delivery}
    (waiting : ∀ delivery ∈ queue, delivery.ticket < plain.tickets) :
    Echoes f (Desk.drain coin time queue plain)
      (Desk.drain coin time (queue.map (Delivery.renamed f)) noisy) := by
  induction queue generalizing plain noisy with
  | nil => exact echoes.carry echoes.dispatcher echoes.now rfl nofun ⟨⟨rfl, rfl⟩, rfl, rfl⟩
  | cons delivery queue ih =>
    obtain ⟨own, others⟩ := List.forall_mem_cons.mp waiting
    have same : (delivery.renamed f).due = delivery.due := rfl
    rw [List.map_cons, Desk.drain, Desk.drain, same]
    by_cases due : delivery.due ≤ time
    · rw [if_pos due, if_pos due]
      have late : Echoes f { plain with now := max plain.now delivery.due }
          { noisy with now := max noisy.now delivery.due } :=
        echoes.carry echoes.dispatcher (congrArg (max · delivery.due) echoes.now) echoes.settling
          echoes.waiting ⟨⟨rfl, rfl⟩, rfl, rfl⟩
      exact ih (late.settle coin own delivery.established) others
    · rw [if_neg due, if_neg due]
      exact echoes.carry echoes.dispatcher echoes.now rfl waiting ⟨⟨rfl, rfl⟩, rfl, rfl⟩

theorem advance (ms : Nat) : Echoes f (plain.advance coin ms) (noisy.advance coin ms) := by
  unfold Desk.advance
  rw [echoes.settling, echoes.now]
  have drained := echoes.drain coin (plain.now + ms) echoes.waiting
  exact drained.carry drained.dispatcher rfl drained.settling drained.waiting
    ⟨⟨rfl, rfl⟩, rfl, rfl⟩

theorem finishAt (place : Nat) :
    Echoes f (plain.finishAt coin place) (noisy.finishAt coin place) := by
  unfold Desk.finishAt
  rw [echoes.settling, List.getElem?_map]
  cases found : plain.settling[place]? with
  | none => exact echoes
  | some delivery =>
    have same : delivery.due ≤ noisy.now ↔ delivery.due ≤ plain.now := by rw [echoes.now]
    by_cases due : delivery.due ≤ plain.now
    · have own := echoes.waiting delivery (List.mem_of_getElem? found)
      have released : Echoes f { plain with settling := plain.settling.eraseIdx place }
          { noisy with
            settling := (plain.settling.map (Delivery.renamed f)).eraseIdx place } := by
        refine echoes.carry echoes.dispatcher echoes.now ?_
          (fun other mem => echoes.waiting other (List.mem_of_mem_eraseIdx mem))
          ⟨⟨rfl, rfl⟩, rfl, rfl⟩
        simp only [List.eraseIdx_eq_take_drop_succ, List.map_append, List.map_take, List.map_drop]
      have settled := released.settle coin own delivery.established
      simpa [due, same, Delivery.renamed] using settled
    · simpa [due, same, Delivery.renamed] using echoes

theorem issue :
    Echoes (issued f plain noisy) { plain with tickets := plain.tickets + 1 }
      { noisy with tickets := noisy.tickets + 1 } := by
  have old {ticket : Nat} (within : ticket < plain.tickets) :
      issued f plain noisy ticket = f ticket := if_neg (Nat.ne_of_lt within)
  have last : issued f plain noisy plain.tickets = noisy.tickets := if_pos rfl
  refine ⟨echoes.dispatcher, echoes.now, ?_, ?_, ?_, ?_, ?_,
    fun ticket => ⟨fun late => ?_, fun late => ?_⟩⟩
  · rw [echoes.settling]
    refine List.map_congr_left fun delivery mem => ?_
    rw [Delivery.renamed, Delivery.renamed, old (echoes.waiting delivery mem)]
  · exact fun delivery mem => Nat.lt_succ_of_lt (echoes.waiting delivery mem)
  · intro ticket within
    rcases Nat.lt_succ_iff_lt_or_eq.mp within with within | rfl
    · rw [old within]
      exact echoes.answers ticket within
    · rw [last]
      exact ((echoes.fresh _).2 (Nat.le_refl _)).trans ((echoes.fresh _).1 (Nat.le_refl _)).symm
  · intro ticket within
    rcases Nat.lt_succ_iff_lt_or_eq.mp within with within | rfl
    · rw [old within]
      exact Nat.lt_succ_of_lt (echoes.given ticket within)
    · rw [last]
      exact Nat.lt_succ_self _
  · intro ticket other within beside same
    rcases Nat.lt_succ_iff_lt_or_eq.mp within with within | rfl <;>
      rcases Nat.lt_succ_iff_lt_or_eq.mp beside with beside | rfl
    · rw [old within, old beside] at same
      exact echoes.apart ticket other within beside same
    · rw [old within, last] at same
      exact absurd same (Nat.ne_of_lt (echoes.given ticket within))
    · rw [old beside, last] at same
      exact absurd same.symm (Nat.ne_of_lt (echoes.given other beside))
    · rfl
  · exact (echoes.fresh ticket).1 (Nat.le_of_succ_le late)
  · exact (echoes.fresh ticket).2 (Nat.le_of_succ_le late)

theorem deliver (notice : List UInt8) :
    Echoes (issued f plain noisy) (plain.deliver coin notice) (noisy.deliver coin notice) := by
  have last : issued f plain noisy plain.tickets = noisy.tickets := if_pos rfl
  have issue := echoes.issue
  have own : plain.tickets < plain.tickets + 1 := Nat.lt_succ_self _
  cases establishes : Notice.establishes notice with
  | false =>
    rw [plain.deliver_noise coin establishes, noisy.deliver_noise coin establishes, ← last]
    have heard : Echoes (issued f plain noisy)
        ({ plain with tickets := plain.tickets + 1 }.record (Event.ofArrival notice))
        ({ noisy with tickets := noisy.tickets + 1 }.record (Event.ofArrival notice)) :=
      issue.carry issue.dispatcher issue.now issue.settling issue.waiting ⟨⟨rfl, rfl⟩, rfl, rfl⟩
    rw [← last] at heard
    exact heard.finish own (Notice.reaction notice)
  | true =>
    have counted : Echoes (issued f plain noisy) (plain.counted notice) (noisy.counted notice) :=
      issue.carry (by simp only [counted, record, echoes.dispatcher]) issue.now issue.settling
        issue.waiting ⟨⟨rfl, rfl⟩, rfl, rfl⟩
    rw [plain.deliver_establishing coin establishes, noisy.deliver_establishing coin establishes,
      echoes.dispatcher]
    split
    · have settled := counted.settle coin own (plain.dispatcher.tracker.established + 1)
      rw [last] at settled
      exact settled
    · refine counted.carry counted.dispatcher counted.now ?_ ?_ ⟨⟨rfl, rfl⟩, rfl, rfl⟩
      · have delayed : plain.delayed.renamed (issued f plain noisy) = noisy.delayed := by
          simp only [Delivery.renamed, Desk.delayed, last, echoes.now, echoes.dispatcher]
        rw [List.map_append, List.map_singleton, delayed]
        exact congrArg (· ++ [noisy.delayed]) counted.settling
      · intro delivery mem
        rcases List.mem_append.mp mem with mem | mem
        · exact counted.waiting delivery mem
        · rw [List.mem_singleton.mp mem]
          exact own

theorem skip {notice : List UInt8} (noise : Notice.establishes notice = false) :
    Echoes f plain (noisy.deliver coin notice) := by
  rw [noisy.deliver_noise coin noise]
  obtain ⟨dispatcher, now, settling, waiting, answers, given, apart, fresh⟩ := echoes
  refine ⟨dispatcher, now, settling, waiting, ?_,
    fun ticket within => Nat.lt_succ_of_lt (given ticket within), apart,
    fun ticket => ⟨(fresh ticket).1, fun late => ?_⟩⟩
  · intro ticket within
    rw [answer_finish, if_neg (Nat.ne_of_gt (given ticket within))]
    exact answers ticket within
  · rw [answer_finish, if_neg (Nat.ne_of_lt late)]
    exact (fresh ticket).2 (Nat.le_of_succ_le late)

theorem peek {ticket : Nat} (spare : ∀ other < plain.tickets, f other ≠ ticket) :
    Echoes f plain (noisy.collect ticket).2 := by
  obtain ⟨dispatcher, now, settling, waiting, answers, given, apart, fresh⟩ := echoes
  refine ⟨dispatcher, now, settling, waiting, ?_, given, apart,
    fun other => ⟨(fresh other).1, fun late => ?_⟩⟩
  · intro other within
    rw [answer_collect, if_neg (spare other within)]
    exact answers other within
  · rw [answer_collect, (fresh other).2 late, ite_self]

end

end Echoes

theorem drain_tickets (coin : Nat → Bool) (time : Nat) (queue : List Delivery) (desk : Desk) :
    (drain coin time queue desk).tickets = desk.tickets := by
  induction queue generalizing desk with
  | nil => rfl
  | cons delivery queue ih =>
    rw [drain]
    split
    · exact ih _
    · rfl

theorem deliver_tickets (coin : Nat → Bool) (desk : Desk) (notice : List UInt8) :
    (desk.deliver coin notice).tickets = desk.tickets + 1 := by
  cases establishes : Notice.establishes notice with
  | false =>
    rw [desk.deliver_noise coin establishes]
    rfl
  | true =>
    rw [desk.deliver_establishing coin establishes]
    split <;> rfl

theorem deliver_now (coin : Nat → Bool) (desk : Desk) (notice : List UInt8) :
    (desk.deliver coin notice).now = desk.now := by
  cases establishes : Notice.establishes notice with
  | false =>
    rw [desk.deliver_noise coin establishes]
    rfl
  | true =>
    rw [desk.deliver_establishing coin establishes]
    split <;> rfl

theorem finishAt_tickets (coin : Nat → Bool) (desk : Desk) (place : Nat) :
    (desk.finishAt coin place).tickets = desk.tickets := by
  unfold finishAt
  split
  · split <;> rfl
  · rfl

theorem dispatch_noise (coin : Nat → Bool) (desk : Desk) {notice : List UInt8}
    (noise : Notice.establishes notice = false) :
    desk.dispatch coin notice = desk.deliver coin notice := by
  unfold dispatch
  rw [desk.deliver_noise coin noise]
  exact if_pos rfl

theorem Echoes.dispatch {f : Nat → Nat} {plain noisy : Desk} (coin : Nat → Bool)
    (echoes : Echoes f plain noisy) (notice : List UInt8) :
    Echoes (issued f plain noisy) (plain.dispatch coin notice) (noisy.dispatch coin notice) := by
  have delivered := echoes.deliver coin notice
  have lengths : (noisy.deliver coin notice).settling.length = noisy.settling.length ↔
      (plain.deliver coin notice).settling.length = plain.settling.length := by
    rw [delivered.settling, echoes.settling, List.length_map, List.length_map]
  unfold Desk.dispatch
  simp only [lengths, delivered.dispatcher]
  split
  · exact delivered
  · exact delivered.advance coin _

theorem dispatch_tickets (coin : Nat → Bool) (desk : Desk) (notice : List UInt8) :
    (desk.dispatch coin notice).tickets = desk.tickets + 1 := by
  rw [← desk.deliver_tickets coin notice]
  unfold dispatch
  dsimp only
  split
  · rfl
  · exact drain_tickets coin _ _ _

end Desk

end Dispatcher

end TunnelSoak
