import RtuBus.Registers
import RtuBus.Device.Reading
import RtuBus.Frame.Function

/-! # Temperature and humidity transmitter

The transmitter keeps the temperature in tenths of a degree as a signed value in register
`0x0001` and the relative humidity in tenths of a percent in register `0x0002`. Depending on
the firmware it serves them as input or as holding registers: the temperature is read with
input registers first, and the humidity with whichever function answered. A transmitter
without a humidity register still gives a temperature.
-/

namespace RtuBus

/-- A temperature and humidity transmitter. -/
structure ThermoHygro where
  timeout : Nat
  deriving Repr, DecidableEq, Inhabited

/-- A temperature and, if the device has one, a humidity. -/
structure ClimateValues where
  temperature : Reading
  humidity : Option Reading
  deriving Repr, DecidableEq, Inhabited

namespace ThermoHygro

def temperatureRegister : UInt16 := 0x0001

def humidityRegister : UInt16 := 0x0002

def probeOrder : List FunctionCode := [FunctionCode.readInput, FunctionCode.readHolding]

def name : String := "XY_MD02"

variable {m : Type → Type} [Monad m] (d : ThermoHygro) (bus : Registers m)

/-- Reads the temperature, then the humidity with the function that answered. -/
def read (slave : UInt8) : m (Except BusError ClimateValues) := do
  match ← bus.readOneOf slave temperatureRegister d.timeout probeOrder .timeout with
  | .error e => pure (.error e)
  | .ok (f, raw) =>
    let humidity ← do
      match ← bus.read slave f humidityRegister 1 d.timeout with
      | .ok (w :: _) => pure (some (Reading.ofWord w 10))
      | _ => pure none
    pure (.ok ⟨Reading.ofSigned raw 10, humidity⟩)

/-- The value of the read function the temperature register answers, if any. -/
def probe (slave : UInt8) : m (Option UInt8) := do
  match ← bus.readOneOf slave temperatureRegister d.timeout probeOrder .timeout with
  | .ok (f, _) => pure (some f.value)
  | .error _ => pure none

end ThermoHygro

end RtuBus
