import RtuBus.Json.Decode

/-! # Session settings

How a session treats the master and the log. `InitPolicy` says whether the master is opened
for each outermost session or kept open; `silenceLevel` caps the log verbosity while a session
is open; `maxWaitMs` bounds the wait for the bus. Log levels are ordered from `off` to `trace`,
and their names are matched without regard to ASCII case.
-/

namespace RtuBus

/-- When the master is initialized and closed again. -/
inductive InitPolicy where
  /-- Open at the start of every outermost session and close at its end. -/
  | perSession
  /-- Open once and keep open. -/
  | keepAlive
  deriving Repr, DecidableEq, Inhabited

namespace InitPolicy

def name : InitPolicy → String
  | perSession => "per-session"
  | keepAlive => "keep-alive"

/-- Policies as a closed set of names. -/
def choice : Json.Choice where
  identifier := "variant identifier"
  names := ["per-session", "keep-alive"]
  lookup
    | "per-session" => some 0
    | "keep-alive" => some 1
    | _ => none

def ofIndex : Nat → InitPolicy
  | 1 => keepAlive
  | _ => perSession

def index : InitPolicy → Nat
  | perSession => 0
  | keepAlive => 1

end InitPolicy

/-- A maximum log verbosity, from `off` (nothing) to `trace` (everything). -/
inductive LogLevel where
  | off
  | error
  | warn
  | info
  | debug
  | trace
  deriving Repr, DecidableEq, Inhabited

namespace LogLevel

def all : List LogLevel := [off, error, warn, info, debug, trace]

/-- The rank of a level: how verbose it is. -/
def rank : LogLevel → Nat
  | off => 0
  | error => 1
  | warn => 2
  | info => 3
  | debug => 4
  | trace => 5

/-- The level of a rank. -/
def ofRank : Nat → LogLevel
  | 0 => off
  | 1 => error
  | 2 => warn
  | 3 => info
  | 4 => debug
  | _ => trace

/-- The upper-case name of a level. -/
def name : LogLevel → String
  | off => "OFF"
  | error => "ERROR"
  | warn => "WARN"
  | info => "INFO"
  | debug => "DEBUG"
  | trace => "TRACE"

def min (a b : LogLevel) : LogLevel :=
  if a.rank ≤ b.rank then a else b

/-- The level named `s`, in any ASCII case. -/
def ofName? (s : String) : Option LogLevel :=
  all.find? (·.name == s.toUpper)

/-- Levels as a closed set of names. -/
def choice : Json.Choice where
  identifier := "log level filter"
  names := all.map name
  lookup s := (ofName? s).map rank

theorem ofRank_rank (l : LogLevel) : ofRank l.rank = l := by
  cases l <;> rfl

theorem min_le_left (a b : LogLevel) : (min a b).rank ≤ a.rank := by
  unfold min; split <;> omega

end LogLevel

/-- How sessions treat the master, the log and waiting for the bus. -/
structure SessionConfig where
  policy : InitPolicy := .perSession
  silenceLevel : LogLevel := .warn
  maxWaitMs : Nat := 500
  deriving Repr, DecidableEq, Inhabited

namespace SessionConfig

def maxWait (c : SessionConfig) : Nat :=
  c.maxWaitMs

def toDatum (c : SessionConfig) : Json.Datum :=
  .fields [.tag c.policy.index, .tag c.silenceLevel.rank, .nat c.maxWaitMs]

/-- How the settings are written; every member may be left out. -/
def shape : Json.Shape :=
  let d : SessionConfig := {}
  .record "SessionConfig"
    [("policy", .choice InitPolicy.choice, some (.tag d.policy.index)),
     ("silence_level", .choice LogLevel.choice, some (.tag d.silenceLevel.rank)),
     ("max_wait_ms", .unsigned 64, some (.nat d.maxWaitMs))]

def ofDatum : Json.Datum → SessionConfig
  | .fields [.tag p, .tag l, .nat w] => ⟨InitPolicy.ofIndex p, LogLevel.ofRank l, w⟩
  | _ => {}

end SessionConfig

end RtuBus
