import RtuBus.Json.Decode

/-! # Configured sensors

A sensor entry ties a channel to the slave address of a device and says what kind of device
it is. Configuration files name kinds in English or in Portuguese; each kind has one canonical
name. Decoding an entry follows `SensorEntry.shape`: channel, address and kind are required,
the subtype defaults to `none`.
-/

namespace RtuBus

/-- The kind of device connected to a channel. -/
inductive SensorType where
  | energy
  | thermoHygro
  | temperature
  | humidity
  | pressure
  | flow
  | gps
  | light
  | gas
  | other
  deriving Repr, DecidableEq, Inhabited

namespace SensorType

def all : List SensorType :=
  [energy, thermoHygro, temperature, humidity, pressure, flow, gps, light, gas, other]

/-- The canonical name of a kind. -/
def name : SensorType → String
  | energy => "energy"
  | thermoHygro => "thermohygro"
  | temperature => "temperature"
  | humidity => "humidity"
  | pressure => "pressure"
  | flow => "flow"
  | gps => "gps"
  | light => "light"
  | gas => "gas"
  | other => "other"

/-- The name of a kind as messages write it. -/
def title : SensorType → String
  | energy => "Energy"
  | thermoHygro => "ThermoHygro"
  | temperature => "Temperature"
  | humidity => "Humidity"
  | pressure => "Pressure"
  | flow => "Flow"
  | gps => "Gps"
  | light => "Light"
  | gas => "Gas"
  | other => "Other"

/-- Every accepted spelling with its kind: per kind in declared order, its spellings in
alphabetical order. -/
def spellings : List (String × SensorType) :=
  [("energia", energy), ("energy", energy),
   ("termo-higrometro", thermoHygro), ("termohigrometro", thermoHygro),
   ("thermohygro", thermoHygro),
   ("temperatura", temperature), ("temperature", temperature),
   ("humidity", humidity), ("umidade", humidity),
   ("pressao", pressure), ("pressure", pressure),
   ("flow", flow), ("fluxo", flow), ("vazao", flow),
   ("gps", gps),
   ("light", light), ("luz", light),
   ("gas", gas),
   ("other", other), ("outro", other), ("outros", other)]

def index (t : SensorType) : Nat :=
  all.idxOf t

def ofIndex (i : Nat) : SensorType :=
  all[i]?.getD other

/-- Kinds as a closed set of names. -/
def choice : Json.Choice where
  identifier := "variant identifier"
  names := spellings.map (·.1)
  lookup s := (spellings.lookup s).map index

theorem ofIndex_index (t : SensorType) : ofIndex t.index = t := by
  cases t <;> rfl

end SensorType

/-- How an energy meter is wired. -/
inductive SensorSubtype where
  | none
  | singlePhase
  | threePhase
  deriving Repr, DecidableEq, Inhabited

namespace SensorSubtype

def all : List SensorSubtype := [none, singlePhase, threePhase]

/-- The canonical name. -/
def name : SensorSubtype → String
  | none => "none"
  | singlePhase => "single-phase"
  | threePhase => "three-phase"

def spellings : List (String × SensorSubtype) :=
  [("none", none), ("monofasico", singlePhase), ("single-phase", singlePhase),
   ("three-phase", threePhase), ("trifasico", threePhase)]

def index (s : SensorSubtype) : Nat :=
  all.idxOf s

def ofIndex (i : Nat) : SensorSubtype :=
  all[i]?.getD none

/-- Subtypes as a closed set of names. -/
def choice : Json.Choice where
  identifier := "variant identifier"
  names := spellings.map (·.1)
  lookup s := (spellings.lookup s).map index

/-- The number of phases a consumer should evaluate: an unstated wiring counts as three. -/
def phaseCount : SensorSubtype → Nat
  | singlePhase => 1
  | none | threePhase => 3

theorem ofIndex_index (s : SensorSubtype) : ofIndex s.index = s := by
  cases s <;> rfl

end SensorSubtype

/-- A configured sensor. -/
structure SensorEntry where
  channel : UInt16
  address : UInt8
  sensorType : SensorType
  subtype : SensorSubtype := .none
  deriving Repr, DecidableEq, Inhabited

namespace SensorEntry

/-- How an entry is written: channel, address and kind required, subtype optional. -/
def shape : Json.Shape :=
  .record "SensorEntry"
    [("channel", .unsigned 16, Option.none), ("address", .unsigned 8, Option.none),
     ("type", .choice SensorType.choice, Option.none),
     ("subtype", .choice SensorSubtype.choice, some (.tag 0))]

/-- The entry a decoded document describes. -/
def ofDatum : Json.Datum → SensorEntry
  | .fields [.nat c, .nat a, .tag t, .tag s] =>
    ⟨c.toUInt16, a.toUInt8, SensorType.ofIndex t, SensorSubtype.ofIndex s⟩
  | _ => default

def toDatum (e : SensorEntry) : Json.Datum :=
  .fields [.nat e.channel.toNat, .nat e.address.toNat, .tag e.sensorType.index,
    .tag e.subtype.index]

def ofValue (v : Json.Value) : Except Json.Error SensorEntry :=
  ofDatum <$> shape.decodeValue v

/-- Decodes a list of entries from a value already read. -/
def listOfValue (v : Json.Value) : Except Json.Error (List SensorEntry) := do
  match ← (Json.Shape.list shape).decodeValue v with
  | .items ds => pure (ds.map ofDatum)
  | _ => pure []

end SensorEntry

def findChannel (entries : List SensorEntry) (channel : UInt16) : Option SensorEntry :=
  entries.find? (·.channel == channel)

end RtuBus
