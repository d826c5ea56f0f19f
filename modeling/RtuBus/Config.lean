import RtuBus.Frame.Request
import RtuBus.Sensor
import RtuBus.Session.Config
import RtuBus.Device.EnergyMap

/-! # Bus configuration

The configuration of a bus: session settings, response timeouts, the register map of energy
meters, and the sensors. Every part may be left out and takes its default. A configuration
is read from JSON text and then validated: the first sensor whose address is not a unicast
slave address (`1..=247`) is refused.
-/

namespace RtuBus

/-- Response timeouts in milliseconds. -/
structure Timeouts where
  requestMs : Nat := 200
  pingMs : Nat := 150
  deriving Repr, DecidableEq, Inhabited

namespace Timeouts

def toDatum (t : Timeouts) : Json.Datum :=
  .fields [.nat t.requestMs, .nat t.pingMs]

/-- How timeouts are written; both may be left out. -/
def shape : Json.Shape :=
  let d : Timeouts := {}
  .record "Timeouts"
    [("request_ms", .unsigned 64, some (.nat d.requestMs)),
     ("ping_ms", .unsigned 64, some (.nat d.pingMs))]

def ofDatum : Json.Datum → Timeouts
  | .fields [.nat r, .nat p] => ⟨r, p⟩
  | _ => {}

end Timeouts

/-- Everything configured about a bus. -/
structure BusConfig where
  session : SessionConfig := {}
  timeouts : Timeouts := {}
  energyMap : EnergyMap := {}
  sensors : List SensorEntry := []
  deriving Repr, DecidableEq, Inhabited

/-- Why a configuration was refused. -/
inductive ConfigError where
  | json (e : Json.Error)
  | invalidAddress (channel : UInt16) (address : UInt8)
  deriving Repr

namespace ConfigError

/-- The text of a configuration error. -/
def message : ConfigError → String
  | json e => "Malformed configuration: " ++ e.message
  | invalidAddress c a => "Channel " ++ toString c.toNat ++ ": invalid slave address " ++
    toString a.toNat

end ConfigError

namespace BusConfig

/-- How a configuration is written; every member may be left out. -/
def shape : Json.Shape :=
  let d : BusConfig := {}
  .record "BusConfig"
    [("session", SessionConfig.shape, some d.session.toDatum),
     ("timeouts", Timeouts.shape, some d.timeouts.toDatum),
     ("energy_map", EnergyMap.shape, some d.energyMap.toDatum),
     ("sensors", .list SensorEntry.shape, some (.items []))]

/-- The configuration a decoded document describes. -/
def ofDatum : Json.Datum → BusConfig
  | .fields [s, t, m, .items es] =>
    ⟨SessionConfig.ofDatum s, Timeouts.ofDatum t, EnergyMap.ofDatum m,
      es.map SensorEntry.ofDatum⟩
  | _ => {}

def decode (text : String) : Except Json.Error BusConfig :=
  ofDatum <$> shape.decodeText text

/-- Refuses the first sensor whose address is not a unicast slave address. -/
def validate (c : BusConfig) : Except ConfigError Unit :=
  match c.sensors.find? (fun e => !isUnicast e.address) with
  | some e => .error (.invalidAddress e.channel e.address)
  | none => .ok ()

/-- Reads and validates a configuration. -/
def ofJson (text : String) : Except ConfigError BusConfig :=
  match decode text with
  | .error e => .error (.json e)
  | .ok c => do
    c.validate
    pure c

def loadSensorEntries (c : BusConfig) : Except ConfigError (List SensorEntry) := do
  c.validate
  pure c.sensors

end BusConfig

end RtuBus
