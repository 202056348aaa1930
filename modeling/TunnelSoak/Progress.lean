import TunnelSoak.Failure

/-! Progress of a run: tunnels must have been established between any two samples,
and before the first one. -/
namespace TunnelSoak

/-- The count at the last sample that saw an advance. -/
structure StallDetector where
  last : Nat := 0
  deriving DecidableEq, Repr

namespace StallDetector

/-- A count must exceed the last one; a count that does not leaves the detector as
it was. -/
def observe (d : StallDetector) (current : Nat) : Except Failure StallDetector :=
  if current ≤ d.last then .error (.stalled d.last current) else .ok ⟨current⟩

end StallDetector

structure Tracker where
  established : Nat := 0
  deriving DecidableEq, Repr

namespace Tracker

def increment (t : Tracker) : Tracker := ⟨t.established + 1⟩

end Tracker

structure Progress where
  tracker : Tracker := {}
  detector : StallDetector := {}
  deriving DecidableEq, Repr

namespace Progress

inductive Step where
  | increment
  | snapshot
  | check
  | observe (count : Nat)
  deriving DecidableEq, Repr

inductive Result where
  | count (n : Nat)
  | passed
  | failed (failure : Failure)
  deriving DecidableEq, Repr

def observe (p : Progress) (count : Nat) : Progress × Result :=
  match p.detector.observe count with
  | .ok detector => ({ p with detector }, .passed)
  | .error failure => (p, .failed failure)

def step (p : Progress) : Step → Progress × Result
  | .increment =>
    let tracker := p.tracker.increment
    ({ p with tracker }, .count tracker.established)
  | .snapshot => (p, .count p.tracker.established)
  | .check => p.observe p.tracker.established
  | .observe count => p.observe count

end Progress

end TunnelSoak
