import RtuBus.Error
import RtuBus.Frame.Function

/-! # Register access

What a device driver needs from a bus: reading a block of registers of a slave with a read
function, and writing one holding register. A driver is written against `Registers m` for any
monad `m`, so what it sends and when it stops can be stated for every behaviour of the bus.

`readWord` reads one register; `readOneOf` tries one register with a list of read functions
and keeps the first that answers.
-/

namespace RtuBus

/-- Register reads and writes in a monad `m`. Timeouts are in milliseconds. -/
structure Registers (m : Type → Type) where
  read : (slave : UInt8) → FunctionCode → (start count : UInt16) → Nat →
    m (Except BusError (List UInt16))
  write : (slave : UInt8) → (register value : UInt16) → Nat → m (Except BusError Unit)

namespace Registers

variable {m : Type → Type} [Monad m] (bus : Registers m)

/-- Reads one register; an answer without a word counts as a short byte count. -/
def readWord (slave : UInt8) (f : FunctionCode) (register : UInt16) (timeout : Nat) :
    m (Except BusError UInt16) := do
  match ← bus.read slave f register 1 timeout with
  | .ok (w :: _) => pure (.ok w)
  | .ok [] => pure (.error (.byteCountMismatch 2 0))
  | .error e => pure (.error e)

/-- Reads one register with each function in turn and returns the first function that
answered with a word, and the word. When none does, the error is that of the last read that
failed, or `last` if none failed. -/
def readOneOf (slave : UInt8) (register : UInt16) (timeout : Nat) :
    List FunctionCode → BusError → m (Except BusError (FunctionCode × UInt16))
  | [], last => pure (.error last)
  | f :: rest, last => do
    match ← bus.read slave f register 1 timeout with
    | .ok (w :: _) => pure (.ok (f, w))
    | .ok [] => readOneOf slave register timeout rest last
    | .error e => readOneOf slave register timeout rest e

end Registers

end RtuBus
