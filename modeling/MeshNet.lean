import MeshNet.Agenda
import MeshNet.Condition.Basic
import MeshNet.Condition.Error
import MeshNet.Condition.Latency
import MeshNet.Condition.Loss
import MeshNet.Decimal.Binary
import MeshNet.Decimal.Layout
import MeshNet.Decimal.Reading
import MeshNet.Decimal.Rounded
import MeshNet.Decimal.Shortest
import MeshNet.Event.Basic
import MeshNet.Event.Effect
import MeshNet.Fault
import MeshNet.Firmware.Basic
import MeshNet.Firmware.Beacon
import MeshNet.Firmware.Catalogue
import MeshNet.Firmware.Echo
import MeshNet.Firmware.Timer
import MeshNet.Fleet
import MeshNet.Link
import MeshNet.Mesh
import MeshNet.Message
import MeshNet.Network.Basic
import MeshNet.Network.Cuts
import MeshNet.Network.Traffic
import MeshNet.Node.Basic
import MeshNet.Node.Error
import MeshNet.Node.Id
import MeshNet.Random.Draw
import MeshNet.Random.Generator
import MeshNet.Random.Source
import MeshNet.Random.Ziggurat
import MeshNet.Random.ZigguratTable
import MeshNet.Setup.Basic
import MeshNet.Setup.Build
import MeshNet.Setup.Encoding
import MeshNet.Setup.Text
import MeshNet.Simulation
import MeshNet.Text.Numeral
import MeshNet.Text.Quoted
import MeshNet.Text.Visibility
import MeshNet.Time
import MeshNet.Timeline
import MeshNet.Toml.DateTime
import MeshNet.Toml.Document
import MeshNet.Toml.Field
import MeshNet.Toml.Number
import MeshNet.Toml.Printer
import MeshNet.Toml.Quoting
import MeshNet.Toml.Reader
import MeshNet.Toml.Strings
import MeshNet.Toml.Tree
import MeshNet.Toml.Value
import MeshNet.Proofs.Queue.Roll
import MeshNet.Proofs.Agenda.Worklist
import MeshNet.Proofs.Agenda.Refinement
import MeshNet.Proofs.Event.Outcome
import MeshNet.Proofs.Agenda.Selection
import MeshNet.Proofs.Event.Atomic
import MeshNet.Proofs.Network.Delivery
import MeshNet.Proofs.Conservation.Balance
import MeshNet.Proofs.Conservation.Mail
import MeshNet.Proofs.Conservation.Exchange
import MeshNet.Proofs.Conservation.Run
import MeshNet.Proofs.Conservation.Law
import MeshNet.Proofs.Loss.Tracking
import MeshNet.Proofs.Loss.Burst
import MeshNet.Proofs.Network.Insertion
import MeshNet.Proofs.Node.Attendance
import MeshNet.Proofs.Node.Outcome
import MeshNet.Proofs.Node.Uptime
import MeshNet.Proofs.Fleet.Step
import MeshNet.Proofs.Fleet.Nodewise
import MeshNet.Proofs.Reach.Verdict
import MeshNet.Proofs.Reach.Peers
import MeshNet.Proofs.Reach.Run
import MeshNet.Proofs.Reach.Law
import MeshNet.Proofs.Partition.Tags
import MeshNet.Proofs.Partition.Law
import MeshNet.Proofs.Fleet.Register
import MeshNet.Proofs.Firmware.Morphism
import MeshNet.Proofs.Firmware.Transport
import MeshNet.Proofs.Firmware.Recorder
import MeshNet.Proofs.Firmware.Session
import MeshNet.Proofs.Firmware.Protocol
import MeshNet.Proofs.Simulation.History
import MeshNet.Proofs.Simulation.Arrival
import MeshNet.Proofs.Simulation.Handover
import MeshNet.Proofs.Setup.Agreement
import MeshNet.Proofs.Simulation.Grid
import MeshNet.Proofs.Simulation.Rounds
import MeshNet.Proofs.Bounds.Timely
import MeshNet.Proofs.Bounds.Guard
import MeshNet.Proofs.Bounds.Sums
import MeshNet.Proofs.Bounds.Step
import MeshNet.Proofs.Bounds.Law
import MeshNet.Proofs.Bounds.Excess
import MeshNet.Proofs.Fleet.Tally
import MeshNet.Proofs.Echo.Reaction
import MeshNet.Proofs.Echo.Conduct
import MeshNet.Proofs.Echo.Exchange
import MeshNet.Proofs.Echo.Account
import MeshNet.Proofs.Echo.Law
import MeshNet.Proofs.Partition.Effect
import MeshNet.Proofs.Setup.Assembly
import MeshNet.Proofs.Firmware.Announcement
import MeshNet.Proofs.Toml.Agreement
import MeshNet.Proofs.Setup.Roundtrip
import MeshNet.Proofs.Simulation.Stepping
import MeshNet.Proofs.Network.Statistics
import MeshNet.Proofs.Network.Latency
import MeshNet.Proofs.Event.Degradation
import MeshNet.Proofs.Network.Decision
import MeshNet.Proofs.Condition.InForce
import MeshNet.Proofs.Network.Order
import MeshNet.Proofs.Firmware.Interval
import MeshNet.Proofs.Firmware.Periodic
import MeshNet.Proofs.Firmware.Upheld
import MeshNet.Proofs.Firmware.Lifetime
import MeshNet.Proofs.Fleet.LastSeen
import MeshNet.Proofs.Simulation.Shutdown
import MeshNet.Proofs.Bounds.Deadline
