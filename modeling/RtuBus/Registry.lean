import RtuBus.Session.Arbiter
import RtuBus.Master.Ping
import RtuBus.Device.Driver
import RtuBus.Config

/-! # The sensor registry

A registry holds a list of drivers and reads configured sensors through the arbiter. A sensor
is read by the first driver that handles its type, in a session of its own; an energy meter
gives its three phase currents, a temperature and humidity transmitter its temperature and
humidity as far as the sensor's type asks for them. Polling reads every entry in one session
and counts the failures per channel. Probing an address asks each driver in turn whether the
device there is one of its kind.
-/

namespace RtuBus

/-- What a measurement measures. -/
inductive MeasurementKind where
  | tempC
  | humPct
  | currentRms
  deriving Repr, DecidableEq

/-- The name of a kind. -/
def MeasurementKind.name : MeasurementKind → String
  | tempC => "TempC"
  | humPct => "HumPct"
  | currentRms => "CurrentRms"

/-- A value read for a channel. -/
structure Measurement where
  channel : UInt16
  kind : MeasurementKind
  value : Reading
  deriving Repr, DecidableEq

/-- Why a sensor could not be read. -/
inductive DispatchError where
  | unsupported (t : SensorType)
  | misconfigured (channel : UInt16) (t : SensorType)
  | bus (e : BusError)
  deriving Repr, DecidableEq

namespace DispatchError

/-- The name of the kind of failure. -/
def kind : DispatchError → String
  | unsupported _ => "Unsupported"
  | misconfigured .. => "Misconfigured"
  | bus _ => "Bus"

/-- The text of a failure. -/
def message : DispatchError → String
  | unsupported t => s!"Sensor type {t.title} is not supported"
  | misconfigured c t =>
    s!"Channel {c.toNat} is configured as {t.title} but the device has no such capability"
  | bus e => e.message

end DispatchError

/-- A device found by probing an address. -/
structure ProbeResult where
  address : UInt8
  driver : String
  function : UInt8
  sensorType : SensorType
  subtype : SensorSubtype
  deriving Repr, DecidableEq

/-- The measurements of an entry from the values its driver read. A humidity channel on a
transmitter without humidity is misconfigured. -/
def measurements (entry : SensorEntry) : DriverValues → Except DispatchError (List Measurement)
  | .energy v =>
    let (l1, l2, l3) := v.phaseCurrents
    .ok ([l1, l2, l3].map (Measurement.mk entry.channel .currentRms))
  | .climate v =>
    if entry.sensorType = .humidity ∧ v.humidity.isNone then
      .error (.misconfigured entry.channel entry.sensorType)
    else
      let temperature := if entry.sensorType = .humidity then []
        else [⟨entry.channel, .tempC, v.temperature⟩]
      let humidity := match v.humidity with
        | some h =>
          if entry.sensorType = .temperature then [] else [⟨entry.channel, .humPct, h⟩]
        | none => []
      .ok (temperature ++ humidity)

/-- The first driver of a list that handles a type, with its position. -/
def findDriver {δ : Type} [Driver δ] (t : SensorType) : List δ → Option (Nat × δ)
  | [] => none
  | d :: rest =>
    if Driver.handles d t then some (0, d) else (findDriver t rest).map fun p => (p.1 + 1, p.2)

/-- The kinds of driver the crate provides. -/
inductive DriverKind where
  | thermoHygro
  | energyMeter
  deriving Repr, DecidableEq

/-- A driver the crate provides: a temperature and humidity transmitter or an energy meter. -/
abbrev StandardDriver := ThermoHygro ⊕ EnergyMeter

/-- The driver of a kind, set up from a configuration: the request timeout for both, and the
register map for an energy meter. -/
def DriverKind.build (config : BusConfig) : DriverKind → StandardDriver
  | .thermoHygro => .inl ⟨config.timeouts.requestMs⟩
  | .energyMeter => .inr (EnergyMeter.new config.energyMap config.timeouts.requestMs)

/-- Drivers whose state is `δ`, the ping timeout in milliseconds and failure counts per
channel. -/
structure Registry (δ : Type) where
  drivers : List δ
  pingTimeout : Nat
  errors : UInt16 → UInt32 := fun _ => 0

abbrev RegistryM (δ σ η : Type) := StateT (Registry δ) (ArbiterM σ η)

namespace Registry

variable {δ : Type}

def standardDrivers (config : BusConfig) : List StandardDriver :=
  [DriverKind.thermoHygro, DriverKind.energyMeter].map (DriverKind.build config)

def withDrivers (config : BusConfig) (drivers : List δ) : Registry δ :=
  { drivers, pingTimeout := config.timeouts.pingMs }

def new (config : BusConfig) : Registry StandardDriver :=
  withDrivers config (standardDrivers config)

def errorCount (r : Registry δ) (channel : UInt16) : UInt32 :=
  r.errors channel

def countFailure (r : Registry δ) (channel : UInt16) : Registry δ :=
  { r with errors := fun c => if c = channel then r.errors c + 1 else r.errors c }

def putDriver (r : Registry δ) (i : Nat) (d : δ) : Registry δ :=
  { r with drivers := r.drivers.set i d }

variable [Driver δ] {σ η : Type} (L : Line σ) (H : Hooks η) (me : ThreadId)

/-- Reads a sensor with the first driver that handles its type, in a session of its own. -/
def dispatchRead (entry : SensorEntry) :
    RegistryM δ σ η (Except DispatchError (List Measurement)) := do
  match findDriver entry.sensorType (← get).drivers with
  | none => return .error (.unsupported entry.sensorType)
  | some (i, d) =>
    let read := (Driver.readValues (Master.registers L) entry.address).run d
    match ← (Arbiter.withSession L H me read : ArbiterM σ η _) with
    | .error e => return .error (.bus e)
    | .ok (values, d) =>
      modify fun r => r.putDriver i d
      match values with
      | .error e => return .error (.bus e)
      | .ok v => return measurements entry v

/-- Reads each entry in turn, counting failures per channel, and gives the measurements of
those that were read. -/
def pollEach : List SensorEntry → RegistryM δ σ η (List Measurement)
  | [] => pure []
  | entry :: rest => do
    let here ← match ← dispatchRead L H me entry with
      | .ok ms => pure ms
      | .error _ => do
        modify fun r => r.countFailure entry.channel
        pure []
    let later ← pollEach rest
    return here ++ later

/-- Reads every entry within one session; when that session cannot be opened, each read
still tries its own. -/
def pollAll (entries : List SensorEntry) : RegistryM δ σ η (List Measurement) := do
  let session ← (Arbiter.enter L H me : ArbiterM σ η _)
  let ms ← pollEach L H me entries
  if session matches .ok () then
    (Arbiter.leave L H me : ArbiterM σ η _)
  return ms

/-- Asks each driver from position `i` on whether the device at an address is one of its
kind, and reports the first that says so. -/
def probeEach (address : UInt8) :
    List δ → Nat → RegistryM δ σ η (Except BusError (Option ProbeResult))
  | [], _ => pure (.ok none)
  | d :: rest, i => do
    let probe := (Driver.probe (Master.registers L) address).run d
    match ← (Arbiter.withMaster me probe : ArbiterM σ η _) with
    | .error e => pure (.error e)
    | .ok (found, d) =>
      modify fun r => r.putDriver i d
      match found with
      | some f =>
        pure (.ok (some ⟨address, Driver.name d, f, (Driver.identity d).1,
          (Driver.identity d).2⟩))
      | none => probeEach address rest (i + 1)

/-- Finds what device answers at a unicast address, within one session. -/
def probeUnknown (address : UInt8) :
    RegistryM δ σ η (Except BusError (Option ProbeResult)) := do
  if !isUnicast address then return .error .invalidArgument
  match ← (Arbiter.enter L H me : ArbiterM σ η _) with
  | .error e => return .error e
  | .ok () =>
    let r ← probeEach L me address (← get).drivers 0
    (Arbiter.leave L H me : ArbiterM σ η _)
    return r

/-- Probes addresses in order with the driver at position `i` and stops at the first that
answers. -/
def scanAddresses (i : Nat) :
    δ → List UInt8 → RegistryM δ σ η (Except BusError (Option UInt8))
  | _, [] => pure (.ok none)
  | d, a :: rest => do
    let probe := (Driver.probe (Master.registers L) a).run d
    match ← (Arbiter.withMaster me probe : ArbiterM σ η _) with
    | .error e => pure (.error e)
    | .ok (found, d) =>
      modify fun r => r.putDriver i d
      if found.isSome then pure (.ok (some a)) else scanAddresses i d rest

/-- The unicast addresses from `lo` to `hi`, in increasing order. -/
def unicastRange (lo hi : UInt8) : List UInt8 :=
  ((List.range' lo.toNat (hi.toNat + 1 - lo.toNat)).map Nat.toUInt8).filter isUnicast

/-- The first address from `lo` to `hi` where the first energy driver finds a meter, within
one session. Without an energy driver there is nothing to find. -/
def findEnergyAddress (lo hi : UInt8) : RegistryM δ σ η (Except BusError (Option UInt8)) := do
  match findDriver .energy (← get).drivers with
  | none => return .ok none
  | some (i, d) =>
    match ← (Arbiter.enter L H me : ArbiterM σ η _) with
    | .error e => return .error e
    | .ok () =>
      let r ← scanAddresses L me i d (unicastRange lo hi)
      (Arbiter.leave L H me : ArbiterM σ η _)
      return r

/-- Pings an address in a session of its own. -/
def ping (address : UInt8) : RegistryM δ σ η (Except BusError UInt8) := do
  let timeout := (← get).pingTimeout
  let r ← (Arbiter.withSession L H me (Master.ping L address timeout).run : ArbiterM σ η _)
  return r.bind id

end Registry

end RtuBus
