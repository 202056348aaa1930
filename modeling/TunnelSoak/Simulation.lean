import TunnelSoak.Json.Record
import TunnelSoak.Json.Writer

/-! Settings of the simulated controller. -/
namespace TunnelSoak

structure Simulation where
  /-- Time from start or termination to an established tunnel. -/
  establishMs : Nat := 500
  /-- Memory kept for ever at every establishment. -/
  leakBytesPerTunnel : Nat := 0
  failConstruction : Bool := false
  deriving DecidableEq, Repr

namespace Simulation

structure Draft where
  establishMs : Option Nat := none
  leakBytesPerTunnel : Option Nat := none
  failConstruction : Option Bool := none

def Draft.settings (draft : Draft) : Simulation :=
  let default : Simulation := {}
  { establishMs := draft.establishMs.getD default.establishMs
    leakBytesPerTunnel := draft.leakBytesPerTunnel.getD default.leakBytesPerTunnel
    failConstruction := draft.failConstruction.getD default.failConstruction }

def fields : List (Json.Field Draft) := [
  .of "establish_ms" Json.count (·.establishMs)
    fun draft v => { draft with establishMs := some v },
  .of "leak_bytes_per_tunnel" Json.count (·.leakBytesPerTunnel)
    fun draft v => { draft with leakBytesPerTunnel := some v },
  .of "fail_construction" Json.flag (·.failConstruction)
    fun draft v => { draft with failConstruction := some v }]

def decoder : Json.Decoder Simulation := Json.record fields {} fun draft => some draft.settings

def decode (bytes : List UInt8) : Except Json.Fault Simulation := Json.document decoder bytes

def encode (s : Simulation) : List UInt8 :=
  Json.objectOf [
    ("establish_ms", Json.ascii (toString s.establishMs)),
    ("leak_bytes_per_tunnel", Json.ascii (toString s.leakBytesPerTunnel)),
    ("fail_construction", Json.ascii (toString s.failConstruction))]

end Simulation

end TunnelSoak
