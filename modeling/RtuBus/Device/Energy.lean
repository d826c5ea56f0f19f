import RtuBus.Registers
import RtuBus.Device.Reading
import RtuBus.Device.EnergyMap
import RtuBus.Frame.Request

/-! # Energy meter

The meter keeps voltage (0.1 V), current (0.01 A), active power (0.1 W), active energy
(0.01 kWh), a block of three phase currents (0.01 A each) and a communication register whose
high byte is its slave address. Where they are and which read function serves them is the
register map.

When the map says `auto`, the function is found per slave: reading the phase block tries
holding registers first, probing tries input registers first. The function that answered is
pinned for the slave and used from then on. A read starts with the phase block and reads the
four single registers only when the block answered, all with the pinned function.
-/

namespace RtuBus

/-- An energy meter driver: its register map, timeout and pinned functions. -/
structure EnergyMeter where
  map : EnergyMap
  timeout : Nat
  /-- The read function found for each slave. -/
  pins : UInt8 → Option FunctionCode := fun _ => none

/-- Everything a read of the meter gives. -/
structure EnergyValues where
  voltage : Reading
  current : Reading
  power : Reading
  energy : Reading
  /-- The current of each phase in amperes, in phase order. -/
  phaseCurrents : Reading × Reading × Reading
  deriving Repr, DecidableEq, Inhabited

namespace FunctionSelect

/-- The function used for the single registers of a slave with no pinned function. -/
def first : FunctionSelect → FunctionCode
  | holding => FunctionCode.readHolding
  | auto | input => FunctionCode.readInput

/-- The functions tried for the phase block of a slave with no pinned function: holding
registers first when detecting. -/
def blockOrder : FunctionSelect → List FunctionCode
  | auto => [FunctionCode.readHolding, FunctionCode.readInput]
  | s => s.candidates

end FunctionSelect

/-- The communication setting with its address byte replaced. -/
def mergeAddress (commConfig : UInt16) (address : UInt8) : UInt16 :=
  (address.toUInt16 <<< 8) ||| (commConfig &&& 0x00FF)

namespace EnergyMeter

def name : String := "JSY_MK_333"

def new (map : EnergyMap) (timeout : Nat) : EnergyMeter :=
  { map, timeout }

def pin (d : EnergyMeter) (slave : UInt8) (f : FunctionCode) : EnergyMeter :=
  { d with pins := fun s => if s = slave then some f else d.pins s }

def functionFor (d : EnergyMeter) (slave : UInt8) : FunctionCode :=
  (d.pins slave).getD d.map.function.first

/-- The functions tried for the phase block of a slave. -/
def blockCandidates (d : EnergyMeter) (slave : UInt8) : List FunctionCode :=
  match d.pins slave with
  | some f => [f]
  | none => d.map.function.blockOrder

variable {m : Type → Type} [Monad m] (bus : Registers m)

/-- Reads the phase block with each function in turn until one gives three words, and pins
that function. -/
def readPhaseBlock (slave : UInt8) :
    List FunctionCode → BusError →
      StateT EnergyMeter m (Except BusError (Reading × Reading × Reading))
  | [], last => pure (.error last)
  | f :: rest, _ => do
    let d ← get
    match ← (bus.read slave f d.map.phaseCurrents 3 d.timeout : m _) with
    | .ok [a, b, c] =>
      set (d.pin slave f)
      pure (.ok (Reading.ofWord a 100, Reading.ofWord b 100, Reading.ofWord c 100))
    | .ok _ => readPhaseBlock slave rest (.byteCountMismatch 6 0)
    | .error e => readPhaseBlock slave rest e

def readPhaseCurrents (slave : UInt8) :
    StateT EnergyMeter m (Except BusError (Reading × Reading × Reading)) :=
  do readPhaseBlock bus slave ((← get).blockCandidates slave) .timeout

/-- The phase currents, then voltage, current, power and energy in that order, stopping at
the first failure. -/
def read (slave : UInt8) : StateT EnergyMeter m (Except BusError EnergyValues) := do
  match ← readPhaseCurrents bus slave with
  | .error e => pure (.error e)
  | .ok phases =>
    let d ← get
    let f := d.functionFor slave
    let words ← (d.map.basic.mapM fun r =>
      (ExceptT.mk (bus.readWord slave f r d.timeout) : ExceptT BusError m UInt16)).run
    match words with
    | .ok [v, c, p, e] =>
      pure (.ok ⟨Reading.ofWord v 10, Reading.ofWord c 100, Reading.ofWord p 10,
        Reading.ofWord e 100, phases⟩)
    | .ok _ => pure (.error (.byteCountMismatch 2 0))
    | .error e => pure (.error e)

/-- Whether one of the registers answers a function, trying them in order. -/
def anyAnswers (slave : UInt8) (f : FunctionCode) (timeout : Nat) : List UInt16 → m Bool
  | [] => pure false
  | r :: rest => do
    match ← bus.readWord slave f r timeout with
    | .ok _ => pure true
    | .error _ => anyAnswers slave f timeout rest

/-- Tries each function in turn on the single registers and pins the first that answers. -/
def probeWith (slave : UInt8) : List FunctionCode → StateT EnergyMeter m (Option UInt8)
  | [] => pure none
  | f :: rest => do
    let d ← get
    if ← (anyAnswers bus slave f d.timeout d.map.basic : m Bool) then
      set (d.pin slave f)
      pure (some f.value)
    else probeWith slave rest

/-- The value of the read function the meter answers, if any, pinned for the slave. -/
def probe (slave : UInt8) : StateT EnergyMeter m (Option UInt8) :=
  do probeWith bus slave (← get).map.function.candidates

/-- Sets the address the meter answers at after its next power cycle: reads the
communication register at `old` and writes it back with the new address byte. -/
def changeAddress (d : EnergyMeter) (old new : UInt8) : m (Except BusError Unit) := do
  if !isUnicast new then return .error .invalidArgument
  match ← bus.readWord old FunctionCode.readHolding d.map.commConfig d.timeout with
  | .error e => pure (.error e)
  | .ok c => bus.write old d.map.commConfig (mergeAddress c new) d.timeout

end EnergyMeter

end RtuBus
