import TunnelSoak.ByteCount
import TunnelSoak.Dispatcher
import TunnelSoak.Failure

/-! What happens in a run, event by event. The trace is the whole record: log lines,
status reports and every count of calls are read off it. -/
namespace TunnelSoak

structure MemoryReading where
  system : Nat
  cumulative : Nat
  deriving DecidableEq, Repr, Inhabited

inductive Event where
  | runStarted (durationSecs sampleIntervalSecs maxSysMemory : Nat)
  | constructionFailed (attempt : Nat) (failure : Failure)
  | controllerStarted (controller start : Nat)
  | controllerRunning (controller : Nat) (announced : Bool)
  | controllerExited (controller : Nat) (announced : Bool)
  /-- A tidy crash takes the controller off the count of live ones. -/
  | controllerCrashed (controller : Nat) (message : String) (tidy : Bool)
  | controllerStopped (controller : Nat)
  | controllerFailed (controller : Nat) (reason : String)
  | noticeEmitted (controller : Nat) (notice : List UInt8)
  | noticeMalformed (length : Nat)
  | diagnostic (message : String)
  | dispatched (result : Dispatched)
  | requestPosted (established : Nat) (request : Request)
  | requestDropped (established : Nat) (request : Request)
  | requestTaken (request : Request)
  | terminateSent (controller : Nat)
  | memoryRead (reading : MemoryReading)
  /-- A sample within the ceiling, as the observer sees it. -/
  | sampled (tick tunnels : Nat) (reading : MemoryReading)
  | progressAdvanced (previous current : Nat)
  | durationElapsed
  | runPassed (tunnels reconnects restarts peak : Nat)
  | runFailed (failure : Failure) (tunnels samples : Nat)
  deriving DecidableEq, Repr

structure Entry where
  time : Nat
  event : Event
  deriving DecidableEq, Repr

/-- What the dispatcher does with a notice on its arrival, apart from counting it. -/
def Event.ofArrival (notice : List UInt8) : List Event :=
  match Notice.classify notice with
  | none => [.noticeMalformed notice.length]
  | some (.info message) => if Notice.isPeakMessage message then [.diagnostic message] else []
  | _ => []

/-- What the dispatcher does at the end of the settle delay of establishment
number `established`. -/
def Event.ofSettled (established : Nat) : Dispatched → List Event
  | .posted request => [.requestPosted established request]
  | .dropped request => [.requestDropped established request]
  | _ => []

end TunnelSoak
