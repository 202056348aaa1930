import TunnelSoak.Mode
import TunnelSoak.Notice
import TunnelSoak.Progress

/-! The dispatcher turns establishments into requests for the run loop. It never
waits for the loop: a request goes into a slot that holds one, and is dropped
where the slot is full or the loop is gone. An establishment counts when its notice
arrives and posts its request when the settle delay is over, so the two halves are
two operations. -/
namespace TunnelSoak

inductive Request where
  | reconnect
  | restart
  deriving DecidableEq, Repr

def Request.name : Request → String
  | .reconnect => "reconnect"
  | .restart => "restart"

inductive Dispatched where
  | ignored
  | surfaced
  | posted (request : Request)
  | dropped (request : Request)
  deriving DecidableEq, Repr

structure Dispatcher where
  mode : Mode
  settleMs : Nat
  tracker : Tracker := {}
  /-- The slots that hold a request. -/
  reconnect : Bool := false
  restart : Bool := false
  /-- The loop no longer takes requests. -/
  closed : Bool := false
  /-- How often the coin has been flipped. -/
  flips : Nat := 0
  deriving DecidableEq, Repr

namespace Dispatcher

def pending (d : Dispatcher) : Request → Bool
  | .reconnect => d.reconnect
  | .restart => d.restart

def setPending (d : Dispatcher) (request : Request) (full : Bool) : Dispatcher :=
  match request with
  | .reconnect => { d with reconnect := full }
  | .restart => { d with restart := full }

/-- A notice is finished with on arrival, or establishes a tunnel. -/
inductive Arrival where
  | finished (result : Dispatched)
  | established (count : Nat)
  deriving DecidableEq, Repr

def arrive (d : Dispatcher) (notice : List UInt8) : Arrival × Dispatcher :=
  match Notice.classify notice with
  | some (.tunnels count) =>
    if 0 < count then
      let tracker := d.tracker.increment
      (.established tracker.established, { d with tracker })
    else (.finished .ignored, d)
  | some (.info message) =>
    (.finished (if Notice.isPeakMessage message then .surfaced else .ignored), d)
  | some (.other _) => (.finished .ignored, d)
  | none => (.finished .ignored, d)

/-- Only the mixed mode flips the coin, whose heads mean restart. -/
def choose (coin : Nat → Bool) (d : Dispatcher) : Request × Dispatcher :=
  match d.mode with
  | .reconnectTunnel => (.reconnect, d)
  | .restartController => (.restart, d)
  | .reconnectAndRestart =>
    (if coin d.flips then .restart else .reconnect, { d with flips := d.flips + 1 })

def post (d : Dispatcher) (request : Request) : Dispatched × Dispatcher :=
  if d.closed || d.pending request then (.dropped request, d)
  else (.posted request, d.setPending request true)

def settle (coin : Nat → Bool) (d : Dispatcher) : Dispatched × Dispatcher :=
  let (request, d) := d.choose coin
  d.post request

def take (d : Dispatcher) (request : Request) : Bool × Dispatcher :=
  (d.pending request, d.setPending request false)

/-- The loop goes away and drops the receivers of both slots, which it holds as a pair, and
with them what is in the slots. -/
def close (d : Dispatcher) : Dispatcher :=
  { d with reconnect := false, restart := false, closed := true }

/-- Decimal digits of a fraction of `width` places without zeros at the end. -/
def fractionText (width n : Nat) : String :=
  let digits := (Moment.padded width n).toList
  String.ofList (digits.reverse.dropWhile (· == '0')).reverse

/-- A delay in the largest unit of which it is at least one. -/
def delayText (ms : Nat) : String :=
  if ms = 0 then "0ns"
  else if ms < 1000 then toString ms ++ "ms"
  else if ms % 1000 = 0 then toString (ms / 1000) ++ "s"
  else toString (ms / 1000) ++ "." ++ fractionText 3 (ms % 1000) ++ "s"

def dump (d : Dispatcher) : String :=
  "EventDispatcher \x7b mode: " ++ d.mode.label ++ ", settle_delay: " ++ delayText d.settleMs ++
    ", tracker: ProgressTracker \x7b established: " ++ toString d.tracker.established ++
    " \x7d, .. \x7d"

end Dispatcher

end TunnelSoak
