import RtuBus.Frame.Function
import RtuBus.Json.Decode

/-! # Register layout of an energy meter

Firmware variants of the meter serve the same values either as holding or as input registers.
The register map says which read function to use, or `auto` to detect it per slave, and where
each value lives. Every member may be left out and then takes its default.
-/

namespace RtuBus

/-- Which read function the meter's registers are served with. -/
inductive FunctionSelect where
  | auto
  | holding
  | input
  deriving Repr, DecidableEq, Inhabited

namespace FunctionSelect

/-- The name of a selection. -/
def name : FunctionSelect → String
  | auto => "auto"
  | holding => "holding"
  | input => "input"

/-- The read functions to try, in order: input registers first when detecting. -/
def candidates : FunctionSelect → List FunctionCode
  | auto => [FunctionCode.readInput, FunctionCode.readHolding]
  | holding => [FunctionCode.readHolding]
  | input => [FunctionCode.readInput]

/-- The position of a selection. -/
def index : FunctionSelect → Nat
  | auto => 0
  | holding => 1
  | input => 2

/-- The selection at a position. -/
def ofIndex : Nat → FunctionSelect
  | 1 => holding
  | 2 => input
  | _ => auto

/-- Selections as a closed set of names. -/
def choice : Json.Choice where
  identifier := "variant identifier"
  names := ["auto", "holding", "input"]
  lookup
    | "auto" => some 0
    | "holding" => some 1
    | "input" => some 2
    | _ => none

end FunctionSelect

/-- Where the meter keeps its values. -/
structure EnergyMap where
  function : FunctionSelect := .auto
  /-- Voltage in units of 0.1 V. -/
  voltage : UInt16 := 0x0000
  /-- Current in units of 0.01 A. -/
  current : UInt16 := 0x0001
  /-- Active power in units of 0.1 W. -/
  power : UInt16 := 0x0002
  /-- Active energy in units of 0.01 kWh. -/
  energy : UInt16 := 0x0003
  /-- The first of three phase current registers, 0.01 A each. -/
  phaseCurrents : UInt16 := 0x0103
  /-- High byte: slave address; low byte: serial line settings. -/
  commConfig : UInt16 := 0x0004
  deriving Repr, DecidableEq, Inhabited

namespace EnergyMap

/-- The four single registers, in the order they are read. -/
def basic (m : EnergyMap) : List UInt16 :=
  [m.voltage, m.current, m.power, m.energy]

def toDatum (m : EnergyMap) : Json.Datum :=
  .fields [.tag m.function.index, .nat m.voltage.toNat, .nat m.current.toNat,
    .nat m.power.toNat, .nat m.energy.toNat, .nat m.phaseCurrents.toNat, .nat m.commConfig.toNat]

/-- How a map is written; every member may be left out. -/
def shape : Json.Shape :=
  let d : EnergyMap := {}
  .record "EnergyRegisterMap"
    [("function", .choice FunctionSelect.choice, some (.tag d.function.index)),
     ("voltage", .unsigned 16, some (.nat d.voltage.toNat)),
     ("current", .unsigned 16, some (.nat d.current.toNat)),
     ("power", .unsigned 16, some (.nat d.power.toNat)),
     ("energy", .unsigned 16, some (.nat d.energy.toNat)),
     ("phase_currents", .unsigned 16, some (.nat d.phaseCurrents.toNat)),
     ("comm_config", .unsigned 16, some (.nat d.commConfig.toNat))]

/-- The map a decoded document describes. -/
def ofDatum : Json.Datum → EnergyMap
  | .fields [.tag f, .nat v, .nat c, .nat p, .nat e, .nat ph, .nat cc] =>
    ⟨FunctionSelect.ofIndex f, v.toUInt16, c.toUInt16, p.toUInt16, e.toUInt16, ph.toUInt16,
      cc.toUInt16⟩
  | _ => {}

def ofValue (v : Json.Value) : Except Json.Error EnergyMap :=
  ofDatum <$> shape.decodeValue v

end EnergyMap

end RtuBus
