import TunnelSoak.Trace

/-! A dispatcher on its own clock, with any number of notices delivered at once. All
settle delays are equal, so deliveries finish in the order of their arrival and the
ones in their delay form a queue. -/
namespace TunnelSoak.Dispatcher

/-- An establishment in its settle delay. -/
structure Delivery where
  ticket : Nat
  due : Nat
  established : Nat
  deriving DecidableEq, Repr

structure Desk where
  dispatcher : Dispatcher
  now : Nat := 0
  /-- Tickets given out so far. -/
  tickets : Nat := 0
  settling : List Delivery := []
  finished : List (Nat × Dispatched) := []
  /-- The latest entry first. -/
  trace : List Entry := []
  deriving DecidableEq, Repr

namespace Desk

def record (desk : Desk) (events : List Event) : Desk :=
  { desk with trace := (events.map fun event => ⟨desk.now, event⟩).reverse ++ desk.trace }

def finish (desk : Desk) (ticket : Nat) (result : Dispatched) : Desk :=
  { desk with finished := (ticket, result) :: desk.finished }

def settle (coin : Nat → Bool) (desk : Desk) (ticket established : Nat) : Desk :=
  let (result, dispatcher) := desk.dispatcher.settle coin
  ({ desk with dispatcher }.record (Event.ofSettled established result)).finish ticket result

def deliver (coin : Nat → Bool) (desk : Desk) (notice : List UInt8) : Desk :=
  let ticket := desk.tickets
  let (arrival, dispatcher) := desk.dispatcher.arrive notice
  let desk := { desk with dispatcher, tickets := ticket + 1 }.record (Event.ofArrival notice)
  match arrival with
  | .finished result => desk.finish ticket result
  | .established count =>
    if dispatcher.settleMs = 0 then desk.settle coin ticket count
    else
      let due := desk.now + dispatcher.settleMs
      { desk with settling := desk.settling ++ [⟨ticket, due, count⟩] }

/-- Finish the deliveries of a queue that are due by `time`, each at its time. -/
def drain (coin : Nat → Bool) (time : Nat) : List Delivery → Desk → Desk
  | [], desk => { desk with settling := [] }
  | delivery :: queue, desk =>
    if delivery.due ≤ time then
      let desk := { desk with now := max desk.now delivery.due }
      drain coin time queue (desk.settle coin delivery.ticket delivery.established)
    else { desk with settling := delivery :: queue }

def advance (coin : Nat → Bool) (desk : Desk) (ms : Nat) : Desk :=
  let time := desk.now + ms
  { drain coin time desk.settling desk with now := time }

def dispatch (coin : Nat → Bool) (desk : Desk) (notice : List UInt8) : Desk :=
  let delivered := desk.deliver coin notice
  if delivered.settling.length = desk.settling.length then delivered
  else delivered.advance coin delivered.dispatcher.settleMs

/-- Hand out the result of a delivery, once. -/
def collect (desk : Desk) (ticket : Nat) : Option Dispatched × Desk :=
  ((desk.finished.find? fun entry => entry.1 = ticket).map Prod.snd,
    { desk with finished := desk.finished.filter fun entry => entry.1 ≠ ticket })

def take (desk : Desk) (request : Request) : Bool × Desk :=
  let (taken, dispatcher) := desk.dispatcher.take request
  (taken, { desk with dispatcher })

def close (desk : Desk) : Desk := { desk with dispatcher := desk.dispatcher.close }

end Desk

end TunnelSoak.Dispatcher
