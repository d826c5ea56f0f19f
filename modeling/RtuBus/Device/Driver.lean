import RtuBus.Device.ThermoHygro
import RtuBus.Device.Energy
import RtuBus.Sensor

/-! # Device drivers

What a registry asks of a device driver whose state is `δ`: a name, the sensor types it reads,
the type and subtype it reports when probing finds it, a probe that tells whether a slave is such
a device, and a read of all its values. The probe and the read are written against any bus, which
they reach only through its reads and writes.

The temperature and humidity transmitter and the energy meter are drivers, and so is the choice
between two drivers, so that one registry can hold drivers of different kinds.
-/

namespace RtuBus

/-- The values read by a driver. -/
inductive DriverValues where
  | climate (v : ClimateValues)
  | energy (v : EnergyValues)
  deriving Repr, DecidableEq

/-- A device driver whose state is `δ`. -/
class Driver (δ : Type) where
  name : δ → String
  handles : δ → SensorType → Bool
  identity : δ → SensorType × SensorSubtype
  /-- Whether a slave is such a device: the value of the read function it answers. -/
  probe {m : Type → Type} [Monad m] : Registers m → UInt8 → StateT δ m (Option UInt8)
  readValues {m : Type → Type} [Monad m] :
    Registers m → UInt8 → StateT δ m (Except BusError DriverValues)

namespace Driver

def handled {δ : Type} [Driver δ] (d : δ) : List SensorType :=
  SensorType.all.filter (handles d)

end Driver

instance : Driver ThermoHygro where
  name _ := ThermoHygro.name
  handles _ t := t = .thermoHygro || t = .temperature || t = .humidity
  identity _ := (.thermoHygro, .none)
  probe bus slave d := do return (← d.probe bus slave, d)
  readValues bus slave d := do return ((← d.read bus slave).map .climate, d)

instance : Driver EnergyMeter where
  name _ := EnergyMeter.name
  handles _ t := t = .energy
  identity _ := (.energy, .none)
  probe bus slave := EnergyMeter.probe bus slave
  readValues bus slave d := do
    let (r, d) ← (EnergyMeter.read bus slave).run d
    return (r.map .energy, d)

instance {α β : Type} [Driver α] [Driver β] : Driver (α ⊕ β) where
  name := Sum.elim Driver.name Driver.name
  handles := Sum.elim Driver.handles Driver.handles
  identity := Sum.elim Driver.identity Driver.identity
  probe bus slave
    | .inl d => do
      let (r, d) ← (Driver.probe bus slave).run d
      return (r, .inl d)
    | .inr d => do
      let (r, d) ← (Driver.probe bus slave).run d
      return (r, .inr d)
  readValues bus slave
    | .inl d => do
      let (r, d) ← (Driver.readValues bus slave).run d
      return (r, .inl d)
    | .inr d => do
      let (r, d) ← (Driver.readValues bus slave).run d
      return (r, .inr d)

end RtuBus
