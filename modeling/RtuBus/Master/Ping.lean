import RtuBus.Master.Basic

/-! # Finding out whether a slave answers

A ping reads one register with a list of candidate read functions and registers and stops at
the first that answers; the function that answered is remembered for the slave and tried first
next time. If the master turns out not to be initialized, it is initialized once and the same
candidate is read again.
-/

namespace RtuBus

namespace Master

variable {σ : Type} (L : Line σ)

/-- The candidates of a slave with no remembered function. -/
def pingFallback : List (FunctionCode × UInt16) :=
  [(FunctionCode.readHolding, 0x0000), (FunctionCode.readInput, 0x0000),
   (FunctionCode.readInput, 0x0001), (FunctionCode.readHolding, 0x0001)]

/-- Reads one register per candidate until one answers, and remembers its function for the
slave. Returns the answering function, or the error of the last attempt (`last` if there was
none), and whether re-initializing is still allowed. -/
def tryCandidates (slave : UInt8) (timeout : Nat) :
    List (FunctionCode × UInt16) → Bool → BusError →
      StateM (Master σ) (Except BusError FunctionCode × Bool)
  | [], mayReinit, last => pure (.error last, mayReinit)
  | (f, register) :: rest, mayReinit, _ => do
    let first ← (read L slave f register 1 timeout).run
    let (result, mayReinit) ← match first, mayReinit with
      | .error .notInitialized, true => do
        let again ← (do init L; read L slave f register 1 timeout).run
        pure (again, false)
      | r, may => pure (r, may)
    match result with
    | .ok _ =>
      modify fun m => { m with hints := m.hints.set slave f }
      pure (.ok f, mayReinit)
    | .error e => tryCandidates slave timeout rest mayReinit e

/-- Pings a unicast slave: the remembered function at registers 0 and 1 first, then the
fallback candidates. Returns the value of the function that answered. -/
def ping (slave : UInt8) (timeout : Nat) : MasterM σ UInt8 := ExceptT.mk do
  if !isUnicast slave then return .error .invalidArgument
  let (hinted, mayReinit) ← match (← get).hints.get slave with
    | some f => tryCandidates L slave timeout [(f, 0x0000), (f, 0x0001)] true .timeout
    | none => pure (.error .timeout, true)
  match hinted with
  | .ok f => return .ok f.value
  | .error _ =>
    let (r, _) ← tryCandidates L slave timeout pingFallback mayReinit .timeout
    return r.map (·.value)

end Master

end RtuBus
