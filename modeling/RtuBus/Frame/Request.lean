import RtuBus.Error

/-! # Requests

The three requests this master sends, and the number of bytes of the complete response
each one expects: a read of `n` registers is answered by `5 + 2·n` bytes, a write by the
eight-byte echo.
-/

namespace RtuBus

def minSlave : UInt8 := 1

def maxSlave : UInt8 := 247

def maxReadCount : UInt16 := 125

/-- Whether an address names one slave (`1..=247`): not broadcast, not reserved. -/
def isUnicast (slave : UInt8) : Bool :=
  minSlave ≤ slave && slave ≤ maxSlave

/-- Whether a register count can be read in one request (`1..=125`). -/
def isReadCount (count : UInt16) : Bool :=
  count != 0 && count ≤ maxReadCount

/-- A request to one slave. -/
inductive Request where
  | readHolding (start count : UInt16)
  | readInput (start count : UInt16)
  | writeSingle (start value : UInt16)
  deriving Repr, DecidableEq

namespace Request

/-- A read with either read function; any other function is an invalid argument. The
count is not checked here. -/
def read? (f : FunctionCode) (start count : UInt16) : Except BusError Request :=
  if f = FunctionCode.readHolding then .ok (readHolding start count)
  else if f = FunctionCode.readInput then .ok (readInput start count)
  else .error .invalidArgument

/-- The function code of a request. -/
def function : Request → FunctionCode
  | readHolding .. => FunctionCode.readHolding
  | readInput .. => FunctionCode.readInput
  | writeSingle .. => FunctionCode.writeSingle

def responseLen : Request → Nat
  | readHolding _ count | readInput _ count => 5 + count.toNat * 2
  | writeSingle .. => 8

theorem read?_function {f : FunctionCode} {start count : UInt16} {r : Request}
    (h : read? f start count = .ok r) : r.function = f := by
  unfold read? at h
  split at h
  · cases h; next hf => exact hf.symm
  · split at h
    · cases h; next hf => exact hf.symm
    · cases h

end Request

end RtuBus
