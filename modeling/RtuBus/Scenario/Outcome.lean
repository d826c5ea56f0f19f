import RtuBus.Registry
import RtuBus.Sim.Bus

/-! # Outcomes of scenario steps

A scenario drives the master, the drivers, the arbiter and the registry over a simulated bus,
one step at a time. Each step either gives an `Outcome` or fails; a failure is a bus error, a
failed sensor read, a refused configuration or entry, or a step that could not be carried
out as written.
-/

namespace RtuBus

/-- What a successful step gives. -/
inductive Outcome where
  | unit
  | flag (b : Bool)
  | number (n : Nat)
  | code (c : Option UInt8)
  | word (w : Option UInt16)
  | words (ws : List UInt16)
  | climate (v : ClimateValues)
  | energy (v : EnergyValues)
  | phases (rs : List Reading)
  | values (v : DriverValues)
  | measurements (ms : List Measurement)
  | probed (r : Option ProbeResult)
  | address (a : Option UInt8)
  | entries (es : List SensorEntry)

/-- Why a step failed. -/
inductive Failure where
  | bus (e : BusError)
  | dispatch (e : DispatchError)
  | config (e : ConfigError)
  | json (e : Json.Error)
  | badInput (message : String)

/-- A bus result as a step result. -/
def Failure.ofBus (r : Except BusError α) (f : α → Outcome) : Except Failure Outcome :=
  match r with
  | .ok a => .ok (f a)
  | .error e => .error (.bus e)

/-- A change to the simulated bus. -/
inductive SimStep where
  | set (slave function : UInt8) (register value : UInt16)
  | exception (slave function : UInt8) (register : UInt16) (code : UInt8)
  | get (slave function : UInt8) (register : UInt16)
  | clear
  | flags (changes : List (SimFlag × Bool))
  | canned (responses : List (Option Bytes))
  /-- A step given a malformed entry: the changes named before it take effect, and the step
  answers with the refusal of the entry. -/
  | stopped (done : SimStep) (refusal : Failure)

namespace SimStep

/-- Carries out a change on the simulated bus. -/
def run : SimStep → StateM SimBus (Except Failure Outcome)
  | set s f r v => do modify (·.setRegister s f r v); pure (.ok .unit)
  | exception s f r c => do modify (·.setException s f r c); pure (.ok .unit)
  | get s f r => do return .ok (.word ((← MonadState.get).registers s f r))
  | clear => do modify SimBus.clear; pure (.ok .unit)
  | flags changes => do
    modify fun b => { b with flags := changes.foldl (fun fs c => fs.update c.2 c.1) b.flags }
    pure (.ok .unit)
  | canned rs => do modify fun b => { b with canned := b.canned ++ rs }; pure (.ok .unit)
  | stopped done refusal => do
    let _ ← done.run
    pure (.error refusal)

end SimStep

end RtuBus
