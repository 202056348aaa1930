import TunnelSoak.Mode

/-! What an operator can ask for on the command line, and why a command line is
refused. -/
namespace TunnelSoak

inductive Flag where
  | mode
  | durationSecs
  | intervalSecs
  | settleMs
  | maxSysMemory
  | controllerConfig
  | establishMs
  | leakBytes
  deriving DecidableEq, Repr

namespace Flag

def all : List Flag :=
  [mode, durationSecs, intervalSecs, settleMs, maxSysMemory, controllerConfig, establishMs,
    leakBytes]

def name : Flag → String
  | mode => "mode"
  | durationSecs => "duration-secs"
  | intervalSecs => "interval-secs"
  | settleMs => "settle-ms"
  | maxSysMemory => "max-sys-memory"
  | controllerConfig => "controller-config"
  | establishMs => "establish-ms"
  | leakBytes => "leak-bytes"

def placeholder (flag : Flag) : String :=
  String.ofList (flag.name.toList.map fun c => if c = '-' then '_' else c.toUpper)

def usage (flag : Flag) : String := "--" ++ flag.name ++ " <" ++ flag.placeholder ++ ">"

end Flag

structure RunArgs where
  mode : Option Mode := none
  durationSecs : Option Nat := none
  intervalSecs : Option Nat := none
  settleMs : Option Nat := none
  maxSysMemory : Option Nat := none
  controllerConfig : Option String := none
  establishMs : Option Nat := none
  leakBytes : Option Nat := none
  deriving DecidableEq, Repr

inductive Command where
  | run (args : RunArgs)
  | modes
  | version
  deriving DecidableEq, Repr

structure CommandLine where
  /-- Logs are written as JSON. -/
  json : Bool
  command : Command
  deriving DecidableEq, Repr

namespace CommandLine

def programName : String := "memsoak"
def programVersion : String := "0.1.0"

inductive Refusal where
  | helpAsked
  /-- No argument at all. -/
  | helpNeeded
  | versionAsked (program : String)
  | unknownCommand (word : String)
  | unexpected (word : String)
  | invalidValue (flag : Flag) (value reason : String)
  | missingValue (flag : Flag)
  | repeated (usage : String)
  | extraValue (value usage : String)
  | missingCommand
  deriving DecidableEq, Repr

namespace Refusal

def firstLine (text : String) : String :=
  let line := text.toList.takeWhile (· ≠ '\n')
  if line.length < text.length ∧ line.getLast? = some '\r' then String.ofList line.dropLast
  else String.ofList line

/-- The first line of what is shown; help has none of its own. -/
def message? : Refusal → Option String
  | helpAsked => none
  | helpNeeded => none
  | versionAsked program => some (program ++ " " ++ programVersion)
  | unknownCommand word => some (firstLine ("error: unrecognized subcommand '" ++ word ++ "'"))
  | unexpected word => some (firstLine ("error: unexpected argument '" ++ word ++ "' found"))
  | invalidValue flag value reason => some (firstLine
      ("error: invalid value '" ++ value ++ "' for '" ++ flag.usage ++ "': " ++ reason))
  | missingValue flag => some
      ("error: a value is required for '" ++ flag.usage ++ "' but none was supplied")
  | repeated usage => some
      ("error: the argument '" ++ usage ++ "' cannot be used multiple times")
  | extraValue value usage => some (firstLine
      ("error: unexpected value '" ++ value ++ "' for '" ++ usage ++
        "' found; no more were expected"))
  | missingCommand => some
      ("error: '" ++ programName ++ "' requires a subcommand but one was not provided")

def isAnswer : Refusal → Bool
  | helpAsked => true
  | versionAsked _ => true
  | _ => false

def exitCode (refusal : Refusal) : Nat := if refusal.isAnswer then 0 else 2

end Refusal

end CommandLine

end TunnelSoak
