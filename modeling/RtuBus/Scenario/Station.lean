import RtuBus.Scenario.Bench
import RtuBus.Sim.Hooks

/-! # Station scenarios

The whole stack over a simulated bus: an arbiter with counting hooks and a log level, a
registry of drivers, and separate drivers for master steps run through the arbiter. The main
thread is thread `0`; every step that acts for another thread uses a thread never seen
before, so another thread's `leave` never matches a session of the main thread.

Other threads run to completion within their step: one may open a session and keep it
(`foreignBegin` without closing), and one may hold the window while a list of steps runs on
the main thread (`foreignHold`). A window kept by another thread is never given back, so the
main thread's wait for it runs out. While a holder has the window for a list of steps, the
main thread does not wait long for it, and no second holder is started.
-/

namespace RtuBus

/-- How long the main thread is willing to wait for the bus. -/
inductive Wait where
  | upTo (ms : Nat)
  | forever
  deriving Repr, DecidableEq

/-- The longest wait, in milliseconds, allowed while another thread holds the window. -/
def shortWait : Nat := 50

def Wait.isLong : Wait → Bool
  | upTo ms => shortWait < ms
  | forever => true

/-- A step of a station scenario. -/
inductive StationStep where
  | begin (wait : Wait)
  | finish
  | isActive
  | depth
  | withMaster (step : MasterStep)
  /-- A master step in a session of its own; the step may be missing or have no name, which
  is found out before the session. -/
  | withSession (wait : Wait) (step : Except Failure MasterStep)
  | nestedWithMaster
  | dispatchRead (entry : SensorEntry)
  | pollAll (entries : Option (List SensorEntry))
  | probeUnknown (address : UInt8)
  | findEnergyAddress (lo hi : UInt8)
  | ping (address : UInt8)
  | errorCount (channel : UInt16)
  | loadSensorEntries
  | setLevel (level : LogLevel)
  | hooks (failPrepare failIdle : Option Bool)
  /-- Another thread opens a session within a wait, closes it if asked to (the first flag),
  and may close one more (the second). Each part is given as read from the step, or with the
  reason it could not be read: the step finds out when it gets to it. -/
  | foreignBegin (wait : Except Failure Wait) (closing : Except Failure (Bool × Bool))
  | foreignEnd
  /-- Another thread, after a wait for the window, holds it while the steps run on the main
  thread. Both parts are given as read, or with the reason they could not be read. -/
  | foreignHold (wait : Except Failure Wait) (steps : Except Failure (List StationStep))
  | sim (s : SimStep)
  | invalid (f : Failure)

instance : Inhabited StationStep := ⟨.isActive⟩

/-- What a station scenario reports about the arbiter, the line and the hooks. -/
structure StationView where
  active : Bool
  depth : Nat
  level : LogLevel
  opened : Nat
  closed : Nat
  openAttempts : Nat
  prepared : Nat
  flushed : Nat
  idled : Nat

mutual
/-- What a step of a station scenario gives. -/
inductive Reply where
  | plain (r : Except Failure Outcome)
  | foreign (r : Except Failure Outcome) (depthInside : Nat)
  | polled (ms : List Measurement) (counts : List (UInt16 × Nat))
  | held (holder : Except Failure Outcome) (steps : List Report)

/-- The answer to one step: what it gave, the frames and switches during it, and the state
after it. -/
inductive Report where
  | mk (reply : Reply) (sent : List Bytes) (switches : List Bool) (view : StationView)
end

/-- A station scenario between steps. -/
structure Station where
  arbiter : Arbiter SimBus CountingHooks
  registry : Registry StandardDriver
  devices : Devices
  config : BusConfig
  nextThread : ThreadId := 1
  holding : Bool := false

abbrev StationM := StateM Station

namespace Station

def main : ThreadId := 0

/-- A system over a bus: a fresh master, hooks if asked for, the log level, and a registry
with drivers of the given kinds or the standard ones, all set up from the configuration. -/
def new (config : BusConfig) (bus : SimBus) (level : LogLevel) (withHooks : Bool)
    (drivers : Option (List DriverKind)) : Station where
  arbiter := { config := config.session, master := { line := bus }, level,
               hooks := if withHooks then some {} else none }
  registry := match drivers with
    | some ds => Registry.withDrivers config (ds.map (DriverKind.build config))
    | none => Registry.new config
  devices := ⟨⟨config.timeouts.requestMs⟩,
    EnergyMeter.new config.energyMap config.timeouts.requestMs⟩
  config

/-- The reported state. -/
def view (s : Station) : StationView :=
  let a := s.arbiter
  let h := a.hooks.getD {}
  ⟨a.isActive, a.reported, a.level, a.master.line.opened, a.master.line.closed,
    a.master.line.openAttempts, h.prepared, h.flushed, h.idled⟩

def onArbiter (x : ArbiterM SimBus CountingHooks α) : StationM α :=
  modifyGet fun s => let r := x.run s.arbiter; (r.1, { s with arbiter := r.2 })

/-- A registry operation. -/
def onRegistry (x : RegistryM StandardDriver SimBus CountingHooks α) : StationM α :=
  modifyGet fun s =>
    let r := (x.run s.registry).run s.arbiter
    (r.1.1, { s with registry := r.1.2, arbiter := r.2 })

def freshThread : StationM ThreadId :=
  modifyGet fun s => (s.nextThread, { s with nextThread := s.nextThread + 1 })

/-- The refusal of a long wait for a window a holder has. -/
def waitTooLong : Failure :=
  .badInput "wait too long while another thread holds the bus"

/-- The refusal of a holder while another one has the window. -/
def holderBusy : Failure :=
  .badInput "foreign_hold does not nest"

/-- The refusal of a long wait by another thread. -/
def foreignWaitTooLong : Failure :=
  .badInput "foreign wait must be at most 50 ms"

/-- The refusal of a holder when sessions may wait long: a step on the main thread would then
wait long for the window the holder has. -/
def holdNeedsShortWaits : Failure :=
  .badInput "foreign_hold needs session.max_wait_ms <= 50"

def masterProgram (d : Devices) (step : MasterStep) :
    StateM (Master SimBus) (Except Failure Outcome × Devices) :=
  (step.run).run d

/-- A master result through the arbiter as a step result. -/
def settle (r : Except BusError (Except Failure Outcome × Devices)) :
    StationM (Except Failure Outcome) :=
  match r with
  | .error e => pure (.error (.bus e))
  | .ok (r, d) => do
    modify fun s => { s with devices := d }
    pure r

def counts (r : Registry StandardDriver) (entries : List SensorEntry) : List (UInt16 × Nat) :=
  (entries.map (·.channel)).eraseDups.map fun c => (c, (r.errorCount c).toNat)

def plain (x : StationM (Except Failure Outcome)) : StationM Reply :=
  Reply.plain <$> x

/-- Another thread opens a session, closes it if asked to, and may close one more. -/
def runForeignBegin (close extraClose : Bool) : StationM Reply := do
  let t ← freshThread
  let r ← onArbiter (Arbiter.enter SimBus.line CountingHooks.hooks t)
  let depthInside := (← get).arbiter.reported
  if r matches .ok () then
    if close then onArbiter (Arbiter.leave SimBus.line CountingHooks.hooks t)
  if extraClose then onArbiter (Arbiter.leave SimBus.line CountingHooks.hooks t)
  return .foreign (Failure.ofBus r fun _ => .unit) depthInside

/-- Polls the given entries or the configured ones. -/
def runPoll (entries : Option (List SensorEntry)) : StationM Reply := do
  let entries := entries.getD (← get).config.sensors
  let ms ← onRegistry (Registry.pollAll SimBus.line CountingHooks.hooks main entries)
  return .polled ms (counts (← get).registry entries)

/-- The answer to a step, with the record taken from the bus and the state after it. -/
def report (reply : Reply) : StationM Report := do
  let s ← get
  let ((sent, switches), line) := s.arbiter.master.line.takeRecord
  let s := { s with arbiter := { s.arbiter with master := { s.arbiter.master with line } } }
  set s
  return .mk reply sent switches s.view

mutual
/-- Carries out a step. -/
def runStep : StationStep → StationM Reply
  | .begin wait => plain do
    if wait.isLong && (← get).holding then return .error waitTooLong
    return Failure.ofBus (← onArbiter (Arbiter.enter SimBus.line CountingHooks.hooks main))
      fun _ => .unit
  | .finish => plain do
    onArbiter (Arbiter.leave SimBus.line CountingHooks.hooks main)
    return .ok .unit
  | .isActive => plain do return .ok (.flag (← get).arbiter.isActive)
  | .depth => plain do return .ok (.number (← get).arbiter.reported)
  | .withMaster step => plain do
    let program := masterProgram (← get).devices step
    settle (← onArbiter (Arbiter.withMaster main program))
  | .withSession wait step => plain do
    if wait.isLong && (← get).holding then return .error waitTooLong
    match step with
    | .error f => return .error f
    | .ok step =>
      let program := masterProgram (← get).devices step
      settle (← onArbiter (Arbiter.withSession SimBus.line CountingHooks.hooks main program))
  | .nestedWithMaster => plain do
    let inner : ArbiterM SimBus CountingHooks _ := Arbiter.withMaster main (pure ())
    let r ← onArbiter (Arbiter.lend main inner)
    return Failure.ofBus (r.bind id) fun _ => .unit
  | .dispatchRead entry => plain do
    let r ← onRegistry (Registry.dispatchRead SimBus.line CountingHooks.hooks main entry)
    return match r with
      | .ok ms => .ok (.measurements ms)
      | .error e => .error (.dispatch e)
  | .probeUnknown address => plain do
    let r ← onRegistry (Registry.probeUnknown SimBus.line CountingHooks.hooks main address)
    return Failure.ofBus r .probed
  | .findEnergyAddress lo hi => plain do
    let r ← onRegistry (Registry.findEnergyAddress SimBus.line CountingHooks.hooks main lo hi)
    return Failure.ofBus r .address
  | .ping address => plain do
    let r ← onRegistry (Registry.ping SimBus.line CountingHooks.hooks main address)
    return Failure.ofBus r fun v => .number v.toNat
  | .errorCount channel =>
    plain do return .ok (.number ((← get).registry.errorCount channel).toNat)
  | .loadSensorEntries => plain do
    return match (← get).config.loadSensorEntries with
      | .ok es => .ok (.entries es)
      | .error e => .error (.config e)
  | .setLevel level => plain do
    modify fun s => { s with arbiter := { s.arbiter with level } }
    return .ok .unit
  | .hooks failPrepare failIdle => plain do
    modify fun s => { s with arbiter := { s.arbiter with hooks := s.arbiter.hooks.map fun h =>
      { h with failPrepare := failPrepare.getD h.failPrepare,
               failIdle := failIdle.getD h.failIdle } } }
    return .ok .unit
  | .foreignEnd => plain do
    let t ← freshThread
    onArbiter (Arbiter.leave SimBus.line CountingHooks.hooks t)
    return .ok .unit
  | .sim step => plain do
    onArbiter (Arbiter.onMaster (Master.onLine step.run))
  | .invalid f => plain (pure (.error f))
  | .pollAll entries => runPoll entries
  | .foreignBegin wait closing =>
    match wait, closing with
    | .error f, _ => pure (.plain (.error f))
    | .ok wait, closing =>
      if wait.isLong then pure (.plain (.error foreignWaitTooLong))
      else match closing with
        | .error f => pure (.plain (.error f))
        | .ok (close, extraClose) => runForeignBegin close extraClose
  | .foreignHold wait steps => do
    if (← get).holding then return .plain (.error holderBusy)
    if shortWait < (← get).config.session.maxWaitMs then
      return .plain (.error holdNeedsShortWaits)
    match wait with
    | .error f => return .plain (.error f)
    | .ok wait => if wait.isLong then return .plain (.error foreignWaitTooLong)
    match steps with
    | .error f => return .plain (.error f)
    | .ok steps =>
      let t ← freshThread
      let r ← onArbiter (Arbiter.enter SimBus.line CountingHooks.hooks t)
      let held := r matches .ok ()
      modify fun s => { s with holding := held }
      let reports ← runSteps steps
      modify fun s => { s with holding := false }
      if held then onArbiter (Arbiter.leave SimBus.line CountingHooks.hooks t)
      return .held (Failure.ofBus r fun _ => .unit) reports

/-- Carries out steps in order and answers each. -/
def runSteps : List StationStep → StationM (List Report)
  | [] => pure []
  | step :: rest => do
    let reply ← runStep step
    let first ← report reply
    let later ← runSteps rest
    return first :: later
end

def runAll (s : Station) (steps : List StationStep) : List Report :=
  ((runSteps steps).run s).1

end Station

end RtuBus
