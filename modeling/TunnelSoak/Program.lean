import TunnelSoak.CommandLine.Reader
import TunnelSoak.Launch

/-! The whole program: a command line is read, then the settings, then the command is
carried out. -/
namespace TunnelSoak

namespace Program

structure Ending where
  exit : Nat
  stdout : List String := []
  stderr : List String := []
  directory : Directory
  deriving Repr

def usage : List String := [
  "tunnel controller soak testing",
  "",
  "Usage: memsoak [--json] <COMMAND>",
  "",
  "Commands:",
  "  run      Run a soak test",
  "  modes    List the available test modes",
  "  version  Show version",
  "  help     Print this message",
  "",
  "Options of run: -m, " ++ String.intercalate ", " (Flag.all.map Flag.usage)]

def modeLines (coloured : Bool) : List String :=
  Style.cyan.paint coloured "Test modes:" :: Mode.all.map fun mode =>
    "  " ++ Style.bold.paint coloured (Style.padRight 24 mode.name) ++ " " ++ mode.description

def versionLine : String := CommandLine.programName ++ " " ++ CommandLine.programVersion

def refuse (refusal : CommandLine.Refusal) (directory : Directory) : Ending :=
  let lines :=
    match refusal.message? with
    | some message => [message]
    | none => usage
  if refusal.isAnswer then { exit := refusal.exitCode, stdout := lines, directory }
  else { exit := refusal.exitCode, stderr := lines, directory }

def errorLine (trouble : Trouble) : String := "Error: " ++ trouble.message

def logFormat (e : Environment) (json : Bool) : Log.Format × List String :=
  let (filter, complaints) := Log.Filter.read e.logFilter
  (⟨json, e.wantsStyledLog, filter.withDefaults⟩, complaints)

def perform (around : Launch.Surroundings) (fuel : Nat) (directory : Directory)
    (settings : Settings) : Command → Option (Launch.Outcome Nat)
  | .run args =>
    (Launch.run around fuel directory (settings.override args)).map fun outcome =>
      { outcome with result := outcome.result.map Verdict.exitCode }
  | .modes => some { lines := modeLines around.console.coloured, directory, result := .ok 0 }
  | .version => some { lines := [versionLine], directory, result := .ok 0 }

/-- Run the program in an environment whose output is no terminal; the console's
colours and log are set by the environment. -/
def run (e : Environment) (around : Launch.Surroundings) (fuel : Nat) (directory : Directory)
    (words : List String) : Option Ending :=
  match CommandLine.read e.controllerConfig words with
  | .error refusal => some (refuse refusal directory)
  | .ok line =>
    let (format, complaints) := logFormat e line.json
    let console := { around.console with coloured := e.wantsColour false, log := some format }
    match Launch.settings e directory.find e.configPath with
    | .error trouble =>
      some { exit := 1, stderr := complaints ++ [errorLine trouble], directory }
    | .ok settings => do
      let outcome ← perform { around with console } fuel directory settings line.command
      match outcome.result with
      | .ok exit => some { exit, stdout := outcome.lines, stderr := complaints
                           directory := outcome.directory }
      | .error trouble => some { exit := 1, stdout := outcome.lines
                                 stderr := complaints ++ [errorLine trouble]
                                 directory := outcome.directory }

end Program

end TunnelSoak
