import TunnelSoak.Failure
import TunnelSoak.Json.Record
import TunnelSoak.Json.Writer
import TunnelSoak.Directory
import TunnelSoak.Utf8

/-! Parameters handed to the controller. They are carried as they are, apart from
the settings that every soak run imposes. -/
namespace TunnelSoak.Controller

structure Params where
  /-- The controller's own configuration. -/
  config : Json.Members := []
  /-- Client parameters applied on top of it. -/
  parameters : Json.Members := []

namespace Params

def kindOf : Json.Value → String
  | .null => "null"
  | .bool _ => "a boolean"
  | .number _ => "a number"
  | .string _ => "a string"
  | .array _ => "an array"
  | .object _ => "an object"

/-- A controller configuration document, which must be an object. -/
def ofDocument (bytes : List UInt8) : Except Failure Params :=
  match Json.document Json.value bytes with
  | .error fault => .error (.unreadable fault)
  | .ok (.object config) => .ok { config }
  | .ok other =>
    .error (.invalidConfig ("controller config must be a JSON object, got " ++ kindOf other))

structure Draft where
  config : Option Json.Members := none
  parameters : Option Json.Members := none

def fields : List (Json.Field Draft) := [
  .of "config" Json.freeObject (·.config) fun draft v => { draft with config := some v },
  .of "parameters" Json.freeObject (·.parameters)
    fun draft v => { draft with parameters := some v }]

def decoder : Json.Decoder Params :=
  Json.record fields {} fun draft => some ⟨draft.config.getD [], draft.parameters.getD []⟩

def encode (p : Params) : List UInt8 :=
  Json.objectOf
    [("config", Json.Members.encode p.config), ("parameters", Json.Members.encode p.parameters)]

def get? (p : Params) (key : String) : Option Json.Value := p.config.find? key

/-- A single tunnel, fast retries, no local proxies, diagnostics on, and all state
on disk under `dir`, as far as its bytes are those of a text. -/
def soakConfig (dir : Json.Bytes) : List (String × Json.Value) :=
  let whole (n : Int) : Json.Value := .number (.int n)
  let file (name : String) : Json.Value :=
    .string (Utf8.lossy (Path.joinBytes dir (Json.utf8 name)))
  [ ("ClientVersion", .string "999999999"),
    ("TunnelPoolSize", whole 1),
    ("DataStoreDirectory", .string (Utf8.lossy dir)),
    ("RemoteServerListDownloadFilename", file "server_list_compressed"),
    ("UpgradeDownloadFilename", file "upgrade"),
    ("FetchRemoteServerListRetryPeriodMilliseconds", whole 250),
    ("EstablishTunnelPausePeriodSeconds", whole 1),
    ("ConnectionWorkerPoolSize", whole 10),
    ("DisableLocalSocksProxy", .bool true),
    ("DisableLocalHTTPProxy", .bool true),
    ("LimitIntensiveConnectionWorkers", whole 5),
    ("LimitMeekBufferSizes", .bool true),
    ("StaggerConnectionWorkersMilliseconds", whole 100),
    ("IgnoreHandshakeStatsRegexps", .bool true),
    ("EmitDiagnosticNotices", .bool true) ]

/-- No waiting for a tactics request. -/
def soakParameters : List (String × Json.Value) := [("TacticsWaitPeriod", .string "1ms")]

def setAll (settings : List (String × Json.Value)) (object : Json.Members) : Json.Members :=
  settings.foldl (fun object setting => Json.Members.insert setting.1 setting.2 object) object

def withSoakOverrides (dir : Json.Bytes) (p : Params) : Params :=
  ⟨setAll (soakConfig dir) p.config, setAll soakParameters p.parameters⟩

end Params

end TunnelSoak.Controller
