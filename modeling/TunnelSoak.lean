import TunnelSoak.Simulation.Script
import TunnelSoak.Allocation
import TunnelSoak.Dispatcher.Desk
import TunnelSoak.Rig.Schedule
import TunnelSoak.Main
import TunnelSoak.Proofs.Soak.Supervision
import TunnelSoak.Proofs.Soak.Soundness
import TunnelSoak.Proofs.Simulation.Reference
import TunnelSoak.Proofs.Dispatcher.Conservation
import TunnelSoak.Proofs.Rig.Session
import TunnelSoak.Proofs.Simulation.Handshake
import TunnelSoak.Proofs.Soak.Return
import TunnelSoak.Proofs.Launch
import TunnelSoak.Proofs.Notice
import TunnelSoak.Proofs.Simulation.Protocol
import TunnelSoak.Proofs.Soak.Timetable
import TunnelSoak.Proofs.Dispatcher.Noise
import TunnelSoak.Proofs.Dispatcher.Overlap
import TunnelSoak.Proofs.Delimiting
import TunnelSoak.Proofs.Binary64
import TunnelSoak.Proofs.Overrides
import TunnelSoak.Proofs.Settings
import TunnelSoak.Proofs.Counts
import TunnelSoak.Proofs.Json.Grammar
import TunnelSoak.Proofs.Json.Shape
import TunnelSoak.Proofs.Envelope
import TunnelSoak.Proofs.Allocation
import TunnelSoak.Proofs.ByteCount
import TunnelSoak.Proofs.RunConfig
import TunnelSoak.Proofs.Json.Supply
import TunnelSoak.Proofs.Progress
import TunnelSoak.Proofs.Rig.Effort
import TunnelSoak.Proofs.Soak.Ending
