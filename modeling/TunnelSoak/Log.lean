import TunnelSoak.Escaped
import TunnelSoak.Trace

/-! Log lines. Every event that an operator may see has one line: a level, a message
and fields in order. -/
namespace TunnelSoak.Log

inductive Level where
  | error
  | warn
  | info
  | debug
  | trace
  deriving DecidableEq, Repr

def Level.name : Level → String
  | error => "ERROR"
  | warn => "WARN"
  | info => "INFO"
  | debug => "DEBUG"
  | trace => "TRACE"

def Level.verbosity : Level → Nat
  | error => 1
  | warn => 2
  | info => 3
  | debug => 4
  | trace => 5

/-- The value of a field: a number, text for reading, or a word of the program. -/
inductive Field where
  | count (n : Nat)
  | text (s : String)
  | quoted (s : String)
  deriving DecidableEq, Repr

namespace Field

def bare : Field → String
  | count n => toString n
  | text s => s
  | quoted s => s

def shown : Field → String
  | count n => toString n
  | text s => s
  | quoted s => Escaped.quote s

end Field

structure Line where
  level : Level
  target : String
  message : String
  fields : List (String × Field)
  deriving DecidableEq, Repr

def Line.text (line : Line) : String :=
  line.fields.foldl (fun text field => text ++ " " ++ field.1 ++ "=" ++ field.2.bare)
    (line.level.name ++ " " ++ line.message)

def runTarget : String := "memsoak_core::orchestrator"
def lifecycleTarget : String := "memsoak_core::lifecycle"
def dispatcherTarget : String := "memsoak_core::dispatcher"
def progressTarget : String := "memsoak_core::progress"
def simulationTarget : String := "memsoak_core::simulated"

def bytes (n : Nat) : Field := .text (ByteCount.text n)

def line? : Event → Option Line
  | .runStarted duration interval ceiling => some ⟨.info, runTarget, "starting soak run",
      [("duration_secs", .count duration), ("sample_interval_secs", .count interval),
        ("max_sys_memory", bytes ceiling)]⟩
  | .constructionFailed _ failure => some ⟨.error, lifecycleTarget,
      "controller construction failed", [("error", .text failure.message)]⟩
  | .controllerStarted _ start => some ⟨.info, lifecycleTarget, "controller started",
      [("start", .count start)]⟩
  | .controllerRunning controller true => some ⟨.debug, simulationTarget,
      "simulated controller running", [("controller", .count controller)]⟩
  | .controllerExited controller true => some ⟨.debug, simulationTarget,
      "simulated controller exited", [("controller", .count controller)]⟩
  | .controllerStopped _ => some ⟨.debug, lifecycleTarget, "controller stopped", []⟩
  | .controllerFailed _ reason => some ⟨.error, lifecycleTarget,
      "controller task did not exit cleanly", [("error", .text reason)]⟩
  | .noticeMalformed length => some ⟨.debug, dispatcherTarget, "dropping malformed notice",
      [("len", .count length)]⟩
  | .diagnostic message => some ⟨.info, dispatcherTarget, "controller diagnostic",
      [("message", .text message)]⟩
  | .requestPosted established request => some ⟨.debug, dispatcherTarget, "posted action",
      [("established", .count established), ("action", .quoted request.name)]⟩
  | .requestDropped established request => some ⟨.debug, dispatcherTarget,
      "action already pending",
      [("established", .count established), ("action", .quoted request.name)]⟩
  | .sampled _ tunnels reading => some ⟨.info, runTarget, "memory sample",
      [("tunnels", .count tunnels), ("sys", bytes reading.system),
        ("total_alloc", bytes reading.cumulative)]⟩
  | .progressAdvanced previous current => some ⟨.debug, progressTarget, "progress advanced",
      [("previous", .count previous), ("current", .count current)]⟩
  | .durationElapsed => some ⟨.info, runTarget, "test duration elapsed", []⟩
  | .runPassed tunnels reconnects restarts peak => some ⟨.info, runTarget, "soak run passed",
      [("tunnels", .count tunnels), ("reconnects", .count reconnects),
        ("restarts", .count restarts), ("peak_sys", bytes peak)]⟩
  | .runFailed failure tunnels samples => some ⟨.error, runTarget, "soak run failed",
      [("cause", .text failure.message), ("tunnels", .count tunnels),
        ("samples", .count samples)]⟩
  | .controllerRunning _ false => none
  | .controllerExited _ false => none
  | .controllerCrashed _ _ _ => none
  | .noticeEmitted _ _ => none
  | .dispatched _ => none
  | .requestTaken _ => none
  | .terminateSent _ => none
  | .memoryRead _ => none

def stamped? (entry : Entry) : Option String :=
  (line? entry.event).map fun line => "@" ++ toString entry.time ++ " " ++ line.text

end TunnelSoak.Log
