import RtuBus.Scenario.Outcome
import RtuBus.Master.Ping

/-! # Master scenarios

A master over a simulated bus, with a temperature and humidity transmitter driver and an
energy meter driver, driven one step at a time. After each step the frames sent and the
direction switches made during it are taken from the bus and reported with the state of the
master and the line.
-/

namespace RtuBus

/-- The drivers a scenario talks to devices through. -/
structure Devices where
  thermo : ThermoHygro
  energy : EnergyMeter

/-- A step of a master scenario. -/
inductive MasterStep where
  | init
  | deinit
  | isInitialized
  | hint (slave : UInt8)
  | read (slave : UInt8) (f : FunctionCode) (start count : UInt16)
  | readHolding (slave : UInt8) (start count : UInt16)
  | readInput (slave : UInt8) (start count : UInt16)
  | writeSingle (slave : UInt8) (register value : UInt16)
  | ping (slave : UInt8)
  | thermoRead (slave : UInt8)
  | thermoProbe (slave : UInt8)
  | thermoReadValues (slave : UInt8)
  | energyRead (slave : UInt8)
  | energyPhaseCurrents (slave : UInt8)
  | energyProbe (slave : UInt8)
  | energyReadValues (slave : UInt8)
  | energyChangeAddress (old new : UInt8)
  | energyPinned (slave : UInt8)
  | sim (s : SimStep)
  | invalid (f : Failure)

abbrev BenchM := StateT Devices (StateM (Master SimBus))

namespace MasterStep

def timeout : Nat := 200

def bus : Registers (StateM (Master SimBus)) :=
  Master.registers SimBus.line

def onBus (x : MasterM SimBus α) (f : α → Outcome) : BenchM (Except Failure Outcome) := do
  let r ← (x.run : StateM (Master SimBus) _)
  return Failure.ofBus r f

/-- A driver read as a step. -/
def onDriver (x : StateM (Master SimBus) (Except BusError α)) (f : α → Outcome) :
    BenchM (Except Failure Outcome) := do
  let r ← (x : StateM (Master SimBus) _)
  return Failure.ofBus r f

/-- An energy meter operation as a step. -/
def onMeter (x : StateT EnergyMeter (StateM (Master SimBus)) α) : BenchM α := do
  let d ← get
  let (r, e) ← (x.run d.energy : StateM (Master SimBus) _)
  set { d with energy := e }
  return r

/-- Carries out a step. -/
def run : MasterStep → BenchM (Except Failure Outcome)
  | init => onBus (Master.init SimBus.line) fun _ => .unit
  | deinit => onBus (Master.deinit SimBus.line) fun _ => .unit
  | isInitialized => do
    return .ok (.flag (← (MonadState.get : StateM (Master SimBus) _)).initialized)
  | hint slave => do
    let m ← (MonadState.get : StateM (Master SimBus) _)
    return .ok (.code ((m.hints.get slave).map (·.value)))
  | read s f a n => onBus (Master.read SimBus.line s f a n timeout) .words
  | readHolding s a n => onBus (Master.readHolding SimBus.line s a n timeout) .words
  | readInput s a n => onBus (Master.readInput SimBus.line s a n timeout) .words
  | writeSingle s r v => onBus (Master.writeSingle SimBus.line s r v timeout) fun _ => .unit
  | ping s => onBus (Master.ping SimBus.line s timeout) fun v => .number v.toNat
  | thermoRead s => do onDriver ((← get).thermo.read bus s) .climate
  | thermoProbe s => do
    let r ← ((← get).thermo.probe bus s : StateM (Master SimBus) _)
    return .ok (.code r)
  | thermoReadValues s => do onDriver ((← get).thermo.read bus s) (.values ∘ .climate)
  | energyRead s => do return Failure.ofBus (← onMeter (EnergyMeter.read bus s)) .energy
  | energyPhaseCurrents s => do
    return Failure.ofBus (← onMeter (EnergyMeter.readPhaseCurrents bus s))
      fun (l1, l2, l3) => .phases [l1, l2, l3]
  | energyProbe s => do return .ok (.code (← onMeter (EnergyMeter.probe bus s)))
  | energyReadValues s => do
    return Failure.ofBus (← onMeter (EnergyMeter.read bus s)) (.values ∘ .energy)
  | energyChangeAddress old new => do
    onDriver ((← get).energy.changeAddress bus old new) fun _ => .unit
  | energyPinned s => do return .ok (.code (((← get).energy.pins s).map (·.value)))
  | sim s => do return (← (Master.onLine s.run : StateM (Master SimBus) _))
  | invalid f => pure (.error f)

end MasterStep

/-- What a master scenario reports about the master and its line. -/
structure BenchView where
  initialized : Bool
  opened : Nat
  closed : Nat
  openAttempts : Nat

/-- The answer to one step of a master scenario. -/
structure BenchAnswer where
  result : Except Failure Outcome
  sent : List Bytes
  switches : List Bool
  view : BenchView

/-- A master scenario between steps. -/
structure Bench where
  devices : Devices
  master : Master SimBus

namespace Bench

def new (bus : SimBus) (map : EnergyMap) : Bench :=
  let t := MasterStep.timeout
  ⟨⟨⟨t⟩, EnergyMeter.new map t⟩, { line := bus }⟩

def view (b : Bench) : BenchView :=
  ⟨b.master.initialized, b.master.line.opened, b.master.line.closed, b.master.line.openAttempts⟩

/-- Carries out one step and reports on it. -/
def step (b : Bench) (s : MasterStep) : BenchAnswer × Bench :=
  let r := ((s.run).run b.devices).run b.master
  let ((sent, switches), line) := r.2.line.takeRecord
  let b : Bench := ⟨r.1.2, { r.2 with line }⟩
  (⟨r.1.1, sent, switches, b.view⟩, b)

def runAll (b : Bench) : List MasterStep → List BenchAnswer
  | [] => []
  | s :: rest => let (a, b) := b.step s; a :: runAll b rest

end Bench

end RtuBus
