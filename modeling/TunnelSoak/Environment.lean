import TunnelSoak.Directory

/-! The environment of the program and what is read off it. -/
namespace TunnelSoak

structure Environment where
  lookup : (name : String) → Option String
  /-- The home directory that the system knows for the account. -/
  accountHome : Option String := none

namespace Environment

def controllerConfig (e : Environment) : Option String := e.lookup "MEMSOAK_CONTROLLER_CONFIG"

def home (e : Environment) : Option String :=
  ((e.lookup "HOME").filter fun path => !path.isEmpty).or e.accountHome

def dataDir (e : Environment) : String :=
  match (e.lookup "XDG_DATA_HOME").filter Path.isAbsolute, e.home with
  | some base, some _ => Path.join base "memsoak"
  | none, some home => Path.join (Path.join home ".local/share") "memsoak"
  | _, none => Path.join "." ".memsoak"

def configPath (e : Environment) : String :=
  match e.lookup "MEMSOAK_CONFIG" with
  | some path => path
  | none => Path.join e.dataDir "config.toml"

def tempDir (e : Environment) : String := (e.lookup "TMPDIR").getD "/tmp"

/-- A switch in the environment is on unless it is zero. -/
def switch (e : Environment) (name : String) : Option Bool := (e.lookup name).map (· ≠ "0")

/-- Colours can be forced, and refused where they are not forced; otherwise they are
for terminals. -/
def wantsColour (e : Environment) (terminal : Bool) : Bool :=
  if e.switch "CLICOLOR_FORCE" = some true then true
  else if (e.lookup "NO_COLOR").isSome then false
  else terminal && (e.switch "CLICOLOR").getD true

def wantsStyledLog (e : Environment) : Bool := (e.lookup "NO_COLOR").all (· = "")

def logFilter (e : Environment) : String := (e.lookup "RUST_LOG").getD ""

end Environment

end TunnelSoak
