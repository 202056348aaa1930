import TunnelSoak.Json.Quoted

/-! Why a run or one of its steps fails. -/
namespace TunnelSoak

inductive Failure where
  | ceilingExceeded (sampled limit : Nat)
  | stalled (previous current : Nat)
  | construction (reason : String)
  | task (reason : String)
  | alreadyRunning
  | invalidConfig (reason : String)
  | unreadable (fault : Json.Fault)
  deriving DecidableEq, Repr

def Json.Fault.message : Json.Fault → String
  | .eof => "unexpected end of input"
  | .malformed => "malformed JSON"
  | .mismatch => "unexpected data"

namespace Failure

def message : Failure → String
  | ceilingExceeded sampled limit =>
    "sys memory exceeds limit: " ++ toString sampled ++ " bytes (limit " ++ toString limit ++
      " bytes)"
  | stalled previous current =>
    "expected established tunnels: count " ++ toString current ++ " did not advance past " ++
      toString previous
  | construction reason => "error creating controller: " ++ reason
  | task reason => "controller task failed: " ++ reason
  | alreadyRunning => "controller already running"
  | invalidConfig reason => "Invalid configuration: " ++ reason
  | unreadable fault => "Serialization error: " ++ fault.message

/-- The two checks of a sample, as opposed to setup and controller failures. -/
def isCheck : Failure → Bool
  | ceilingExceeded _ _ => true
  | stalled _ _ => true
  | _ => false

end Failure

end TunnelSoak
