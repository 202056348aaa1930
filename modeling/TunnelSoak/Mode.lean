/-! Test modes: which action follows every tunnel establishment. -/
namespace TunnelSoak

inductive Mode where
  | reconnectTunnel
  | restartController
  | reconnectAndRestart
  deriving DecidableEq, Repr, Inhabited

namespace Mode

def all : List Mode := [reconnectTunnel, restartController, reconnectAndRestart]

def name : Mode → String
  | reconnectTunnel => "reconnect_tunnel"
  | restartController => "restart_controller"
  | reconnectAndRestart => "reconnect_and_restart"

def shortName : Mode → String
  | reconnectTunnel => "reconnect"
  | restartController => "restart"
  | reconnectAndRestart => "both"

def label : Mode → String
  | reconnectTunnel => "ReconnectTunnel"
  | restartController => "RestartController"
  | reconnectAndRestart => "ReconnectAndRestart"

def description : Mode → String
  | reconnectTunnel => "terminate the active tunnel after each establishment"
  | restartController => "stop and restart the controller after each establishment"
  | reconnectAndRestart => "randomly reconnect or restart after each establishment"

def ofName? (text : String) : Option Mode := all.find? fun mode => mode.name = text

/-- Letters in lower case and hyphens as underscores. The names are ASCII, and no
other character has one of their letters as its lower case. -/
def normalize (text : String) : String :=
  String.ofList (text.toList.map fun c => if c = '-' then '_' else c.toLower)

def parse? (text : String) : Option Mode :=
  let word := normalize text
  all.find? fun mode => mode.name = word || mode.shortName = word

end Mode

end TunnelSoak
