import TunnelSoak.CommandLine
import TunnelSoak.RunConfig
import TunnelSoak.Simulation
import TunnelSoak.Toml.Reader
import TunnelSoak.Toml.Record

/-! The settings of the program: what the command line gives goes before what the
configuration file gives, and that before the defaults, setting by setting. -/
namespace TunnelSoak

structure Settings where
  run : RunConfig := {}
  simulation : Simulation := {}
  /-- A file with the configuration of the controller. -/
  controllerConfig : Option String := none
  /-- Where each run gets a directory for the data of its controllers. -/
  scratchDir : String

namespace Settings

def paramsFields : List (Toml.Field Controller.Params.Draft) := [
  .of "config" Toml.freeTable fun draft v => { draft with config := some v },
  .of "parameters" Toml.freeTable fun draft v => { draft with parameters := some v }]

def paramsOf (value : Toml.Value) : Option Controller.Params :=
  (Toml.record paramsFields {} value).map fun draft =>
    ⟨draft.config.getD [], draft.parameters.getD []⟩

def runFields : List (Toml.Field RunConfig.Draft) := [
  .of "mode" (Toml.choice Mode.ofName?) fun draft v => { draft with mode := some v },
  .of "duration_secs" Toml.count fun draft v => { draft with durationSecs := some v },
  .of "sample_interval_secs" Toml.count
    fun draft v => { draft with sampleIntervalSecs := some v },
  .of "settle_delay_ms" Toml.count fun draft v => { draft with settleDelayMs := some v },
  .of "max_sys_memory" Toml.count fun draft v => { draft with maxSysMemory := some v },
  .of "controller" paramsOf fun draft v => { draft with controller := some v }]

def simulationFields : List (Toml.Field Simulation.Draft) := [
  .of "establish_ms" Toml.count fun draft v => { draft with establishMs := some v },
  .of "leak_bytes_per_tunnel" Toml.count
    fun draft v => { draft with leakBytesPerTunnel := some v },
  .of "fail_construction" Toml.flag fun draft v => { draft with failConstruction := some v }]

structure Places where
  controllerConfig : Option String := none
  scratchDir : Option String := none
  deriving DecidableEq, Repr

def placesFields : List (Toml.Field Places) := [
  .of "controller_config" Toml.text fun draft v => { draft with controllerConfig := some v },
  .of "scratch_dir" Toml.text fun draft v => { draft with scratchDir := some v }]

structure Draft where
  run : RunConfig.Draft := {}
  simulation : Simulation.Draft := {}
  paths : Places := {}

def fields : List (Toml.Field Draft) := [
  .of "run" (Toml.record runFields {}) fun draft v => { draft with run := v },
  .of "simulation" (Toml.record simulationFields {}) fun draft v => { draft with simulation := v },
  .of "paths" (Toml.record placesFields {}) fun draft v => { draft with paths := v }]

def Draft.parse? (text : String) : Option Draft := do
  let members ← Toml.document? text
  Toml.readNamed fields members {}

def Draft.settings (tempDir : String) (draft : Draft) : Settings where
  run := draft.run.config
  simulation := draft.simulation.settings
  controllerConfig := draft.paths.controllerConfig
  scratchDir := draft.paths.scratchDir.getD tempDir

def override (s : Settings) (args : RunArgs) : Settings where
  run :=
    { s.run with
      mode := args.mode.getD s.run.mode
      durationSecs := args.durationSecs.getD s.run.durationSecs
      sampleIntervalSecs := args.intervalSecs.getD s.run.sampleIntervalSecs
      settleDelayMs := args.settleMs.getD s.run.settleDelayMs
      maxSysMemory := args.maxSysMemory.getD s.run.maxSysMemory }
  simulation :=
    { s.simulation with
      establishMs := args.establishMs.getD s.simulation.establishMs
      leakBytesPerTunnel := args.leakBytes.getD s.simulation.leakBytesPerTunnel }
  controllerConfig := args.controllerConfig.or s.controllerConfig
  scratchDir := s.scratchDir

end Settings

end TunnelSoak
