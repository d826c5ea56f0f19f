import RtuBus.Crc
import RtuBus.Frame.Function
import RtuBus.Frame.Request
import RtuBus.Frame.Codec
import RtuBus.Frame.Checked
import RtuBus.Text.Hex
import RtuBus.Text.Printable
import RtuBus.Error
import RtuBus.Binary.Basic
import RtuBus.Binary.Shortest
import RtuBus.Binary.Text
import RtuBus.Json.Value
import RtuBus.Json.Error
import RtuBus.Json.Reader
import RtuBus.Json.Decode
import RtuBus.Sensor
import RtuBus.Session.Config
import RtuBus.Device.EnergyMap
import RtuBus.Config
import RtuBus.Master.Hint
import RtuBus.Line
import RtuBus.Registers
import RtuBus.Master.Basic
import RtuBus.Master.Ping
import RtuBus.Device.Reading
import RtuBus.Device.ThermoHygro
import RtuBus.Device.Energy
import RtuBus.Device.Driver
import RtuBus.Session.Arbiter
import RtuBus.Registry
import RtuBus.Sim.Bus
import RtuBus.Sim.Hooks
import RtuBus.Scenario.Outcome
import RtuBus.Scenario.Bench
import RtuBus.Scenario.Station
import RtuBus.Proofs.Frames
import RtuBus.Proofs.CrcResidue
import RtuBus.Proofs.CrcDetection
import RtuBus.Proofs.Session.Calls
import RtuBus.Proofs.Session.Interleaving
import RtuBus.Proofs.Session.Exclusion
import RtuBus.Proofs.Session.Pairing
import RtuBus.Proofs.Session.Lifecycle
import RtuBus.Proofs.Master.Calls
import RtuBus.Proofs.Master.Hints
import RtuBus.Proofs.Master.Record
import RtuBus.Proofs.Master.Protocol
import RtuBus.Proofs.Master.Status
import RtuBus.Proofs.Session.Rollback
import RtuBus.Proofs.Session.Level
import RtuBus.Proofs.Master.Candidates
import RtuBus.Proofs.Device.CallLog
import RtuBus.Proofs.Device.Traffic
import RtuBus.Proofs.Device.MeterScans
import RtuBus.Proofs.Device.MeterTraffic
import RtuBus.Proofs.Device.Pins
import RtuBus.Proofs.Session.Between
import RtuBus.Proofs.Registry.Sessions
import RtuBus.Proofs.Responses
import RtuBus.Proofs.Device.Confined
import RtuBus.Proofs.Registry.Dispatch
import RtuBus.Proofs.Registry.Polling
import RtuBus.Proofs.Registry.PollSession
import RtuBus.Proofs.Device.Climate
import RtuBus.Proofs.Registry.Probing
import RtuBus.Proofs.Registry.MeterSearch
import RtuBus.Proofs.Requests
import RtuBus.Proofs.Configuration
import RtuBus.Proofs.FrameSafety
