import TunnelSoak.Failure

/-! What a controller does, as a script. The run part is carried out once or over
and over until the controller is cancelled, the shutdown part after that; nothing
interrupts a shutdown.

A controller may also come back before it is cancelled. Its run part is over then and
its shutdown part empty: nobody looks at a controller before it is stopped, so all that
differs is when its exit is recorded. Notices come from the controller's own task, for
that task is all that a stop waits for. -/
namespace TunnelSoak.Controller

inductive Act where
  | sleep (ms : Nat)
  /-- Deliver a notice and wait until it is dispatched. -/
  | emit (notice : List UInt8)
  /-- Wait for a request to terminate a tunnel. -/
  | awaitTermination
  | crash (message : String)
  /-- A tunnel is up. -/
  | raise
  /-- The tunnel is taken down because that was asked for. -/
  | lower
  /-- The tunnel is gone with the controller. -/
  | abandon
  deriving DecidableEq, Repr

structure Script where
  run : List Act := []
  repeats : Bool := false
  shutdown : List Act := []
  /-- Requests to terminate are heard only while a tunnel is up. -/
  guarded : Bool := false
  /-- Start and exit are logged. -/
  announced : Bool := false
  /-- A crash takes the controller off the count of live ones, as an exit does. -/
  tidy : Bool := true
  deriving DecidableEq, Repr, Inhabited

/-- What a factory builds: attempts, counted from one, may fail, and each controller,
counted from zero, has its script. -/
structure Plan where
  refusal : (attempt : Nat) → Option Failure
  script : (index : Nat) → Script

end TunnelSoak.Controller
