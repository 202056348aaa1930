import TunnelSoak.Controller.Script
import TunnelSoak.Notice
import TunnelSoak.Simulation

/-! The simulated controller: each instance establishes one tunnel after a delay and
reports it, establishes again after a termination, and reports peak concurrency on
shutdown. Between a tunnel and its report the instance keeps memory for ever, and a
block longer than any block can be is its end. -/
namespace TunnelSoak.Simulation

def tunnelsNotice (count : Int) : List UInt8 := (Notice.tunnels count none).encode

def peakNotice : List UInt8 := (Notice.info (Notice.peakPhrase ++ ": 1") none).encode

def meekPeakNotice : List UInt8 := (Notice.info (Notice.meekPeakPhrase ++ ": 0") none).encode

/-- The longest block of memory, in bytes. -/
def maxBlock : Nat := Nat.pow 2 63 - 1

def Fits (s : Simulation) : Prop := s.leakBytesPerTunnel ≤ maxBlock

instance (s : Simulation) : Decidable s.Fits := inferInstanceAs (Decidable (_ ≤ _))

/-- Keeping the memory of a tunnel does nothing else, if it can be done at all. -/
def leak (s : Simulation) : List Controller.Act :=
  if s.Fits then [] else [.crash "capacity overflow"]

def script (s : Simulation) : Controller.Script where
  run := [.sleep s.establishMs, .raise] ++ s.leak ++ [.emit (tunnelsNotice 1),
    .awaitTermination, .lower, .emit (tunnelsNotice 0)]
  repeats := true
  shutdown := [.abandon, .emit peakNotice, .emit meekPeakNotice]
  guarded := true
  announced := true
  tidy := false

def plan (s : Simulation) : Controller.Plan where
  refusal _ :=
    if s.failConstruction then some (.construction "simulated construction failure") else none
  script _ := s.script

end TunnelSoak.Simulation
