import TunnelSoak.Controller.Params
import TunnelSoak.Mode

/-! The settings of one soak run. -/
namespace TunnelSoak

structure RunConfig where
  mode : Mode := .reconnectTunnel
  durationSecs : Nat := 120
  sampleIntervalSecs : Nat := 10
  /-- Delay between an establishment and the action that follows it. -/
  settleDelayMs : Nat := 250
  /-- Ceiling of system memory in bytes. -/
  maxSysMemory : Nat := 11 * 1024 * 1024
  controller : Controller.Params := {}

namespace RunConfig

/-- Settings that cannot make a meaningful run are rejected, the first one named. -/
def validate (c : RunConfig) : Except Failure Unit :=
  if c.durationSecs = 0 then
    .error (.invalidConfig "duration_secs must be greater than zero")
  else if c.sampleIntervalSecs = 0 then
    .error (.invalidConfig "sample_interval_secs must be greater than zero")
  else if c.maxSysMemory = 0 then
    .error (.invalidConfig "max_sys_memory must be greater than zero")
  else .ok ()

/-- The settings that a source gives; the others keep their defaults. -/
structure Draft where
  mode : Option Mode := none
  durationSecs : Option Nat := none
  sampleIntervalSecs : Option Nat := none
  settleDelayMs : Option Nat := none
  maxSysMemory : Option Nat := none
  controller : Option Controller.Params := none

def Draft.config (draft : Draft) : RunConfig :=
  let default : RunConfig := {}
  { mode := draft.mode.getD default.mode
    durationSecs := draft.durationSecs.getD default.durationSecs
    sampleIntervalSecs := draft.sampleIntervalSecs.getD default.sampleIntervalSecs
    settleDelayMs := draft.settleDelayMs.getD default.settleDelayMs
    maxSysMemory := draft.maxSysMemory.getD default.maxSysMemory
    controller := draft.controller.getD default.controller }

def fields : List (Json.Field Draft) := [
  .of "mode" (Json.choice Mode.ofName?) (·.mode) fun draft v => { draft with mode := some v },
  .of "duration_secs" Json.count (·.durationSecs)
    fun draft v => { draft with durationSecs := some v },
  .of "sample_interval_secs" Json.count (·.sampleIntervalSecs)
    fun draft v => { draft with sampleIntervalSecs := some v },
  .of "settle_delay_ms" Json.count (·.settleDelayMs)
    fun draft v => { draft with settleDelayMs := some v },
  .of "max_sys_memory" Json.count (·.maxSysMemory)
    fun draft v => { draft with maxSysMemory := some v },
  .of "controller" Controller.Params.decoder (·.controller)
    fun draft v => { draft with controller := some v }]

def decoder : Json.Decoder RunConfig := Json.record fields {} fun draft => some draft.config

def decode (bytes : List UInt8) : Except Json.Fault RunConfig := Json.document decoder bytes

def encode (c : RunConfig) : List UInt8 :=
  let count (n : Nat) := Json.ascii (toString n)
  Json.objectOf [
    ("mode", Json.Quoted.encode c.mode.name),
    ("duration_secs", count c.durationSecs),
    ("sample_interval_secs", count c.sampleIntervalSecs),
    ("settle_delay_ms", count c.settleDelayMs),
    ("max_sys_memory", count c.maxSysMemory),
    ("controller", c.controller.encode)]

end RunConfig

end TunnelSoak
