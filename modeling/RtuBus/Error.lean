import RtuBus.Frame.Function
import RtuBus.Text.Hex

/-! # Bus errors

What can go wrong on the bus, each as its cause. `BusError.message` holds all wording;
`BusError.isValidation` tells the failures found while waiting for or checking a response
from those found before anything was sent.
-/

namespace RtuBus

/-- The kind of a failed call to the serial line. -/
inductive IoKind where
  | notFound
  | connectionReset
  | permissionDenied
  | brokenPipe
  | timedOut
  | other
  deriving Repr, DecidableEq, Inhabited

namespace IoKind

/-- The usual wording of each kind. -/
def message : IoKind → String
  | notFound => "entity not found"
  | connectionReset => "connection reset"
  | permissionDenied => "permission denied"
  | brokenPipe => "broken pipe"
  | timedOut => "timed out"
  | other => "other error"

end IoKind

/-- A failed bus operation. -/
inductive BusError where
  | invalidArgument
  | transport (kind : IoKind)
  | timeout
  | lengthMismatch (expected actual : Nat)
  | crcMismatch (expected actual : UInt16)
  | addressMismatch (expected actual : UInt8)
  | functionMismatch (expected actual : UInt8)
  | byteCountMismatch (expected actual : UInt8)
  | echoMismatch
  | exception (function : FunctionCode) (reason : Exception)
  | notInitialized
  | noSession
  | busy
  deriving Repr, DecidableEq, Inhabited

namespace BusError

/-- The text of an error. -/
def message : BusError → String
  | invalidArgument => "Invalid argument"
  | transport k => s!"Transport error: {k.message}"
  | timeout => "Timeout"
  | lengthMismatch e a => s!"Length mismatch: expected = {e}, actual = {a}"
  | crcMismatch e a =>
    s!"Invalid CRC: expected = 0x{Hex.upper 4 e.toNat}, actual = 0x{Hex.upper 4 a.toNat}"
  | addressMismatch e a => s!"Address mismatch: expected = {e.toNat}, actual = {a.toNat}"
  | functionMismatch e a =>
    s!"Function mismatch: expected = 0x{Hex.upper 2 e.toNat}, actual = 0x{Hex.upper 2 a.toNat}"
  | byteCountMismatch e a => s!"Invalid byte count: expected = {e.toNat}, actual = {a.toNat}"
  | echoMismatch => "Write response does not echo the request"
  | exception f r => s!"Exception response for function 0x{Hex.upper 2 f.value.toNat}: {r.name}"
  | notInitialized => "Master not initialized"
  | noSession => "No bus session held by the calling thread"
  | busy => "Master is busy"

/-- The name of the kind of failure. -/
def kind : BusError → String
  | invalidArgument => "InvalidArgument"
  | transport _ => "Transport"
  | timeout => "Timeout"
  | lengthMismatch .. => "LengthMismatch"
  | crcMismatch .. => "CrcMismatch"
  | addressMismatch .. => "AddressMismatch"
  | functionMismatch .. => "FunctionMismatch"
  | byteCountMismatch .. => "ByteCountMismatch"
  | echoMismatch => "EchoMismatch"
  | exception .. => "Exception"
  | notInitialized => "NotInitialized"
  | noSession => "NoSession"
  | busy => "Busy"

/-- Whether the failure was found while waiting for or checking a response. -/
def isValidation : BusError → Bool
  | timeout | transport _ | lengthMismatch .. | crcMismatch .. | addressMismatch ..
  | functionMismatch .. | byteCountMismatch .. | echoMismatch | exception .. => true
  | invalidArgument | notInitialized | noSession | busy => false

end BusError

end RtuBus
