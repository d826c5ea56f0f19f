/-! # Function codes and exceptions

A function code is the second byte of every frame. Four codes have names; every other byte is
a custom code. A slave that refuses a request answers with the function code plus `0x80` and
one of nine exception codes.
-/

namespace RtuBus

/-- The function byte of a frame. -/
structure FunctionCode where
  value : UInt8
  deriving Repr, DecidableEq, Inhabited

namespace FunctionCode

/-- `0x03`: read holding registers. -/
def readHolding : FunctionCode := ⟨0x03⟩
/-- `0x04`: read input registers. -/
def readInput : FunctionCode := ⟨0x04⟩
def writeSingle : FunctionCode := ⟨0x06⟩
def writeMultiple : FunctionCode := ⟨0x10⟩

/-- The name of a code: one of the four register functions or `Custom(n)`. -/
def name (f : FunctionCode) : String :=
  match f.value.toNat with
  | 0x03 => "ReadHoldingRegisters"
  | 0x04 => "ReadInputRegisters"
  | 0x06 => "WriteSingleRegister"
  | 0x10 => "WriteMultipleRegisters"
  | n => s!"Custom({n})"

/-- A code is written as its decimal value. -/
def display (f : FunctionCode) : String :=
  toString f.value.toNat

def isRead (f : FunctionCode) : Bool :=
  f = readHolding || f = readInput

end FunctionCode

/-- The reason a slave gives for refusing a request. -/
inductive Exception where
  | illegalFunction
  | illegalDataAddress
  | illegalDataValue
  | serverDeviceFailure
  | acknowledge
  | serverDeviceBusy
  | memoryParityError
  | gatewayPathUnavailable
  | gatewayTargetDevice
  deriving Repr, DecidableEq, Inhabited

namespace Exception

/-- The exception code on the wire. -/
def code : Exception → UInt8
  | illegalFunction => 0x01
  | illegalDataAddress => 0x02
  | illegalDataValue => 0x03
  | serverDeviceFailure => 0x04
  | acknowledge => 0x05
  | serverDeviceBusy => 0x06
  | memoryParityError => 0x08
  | gatewayPathUnavailable => 0x0A
  | gatewayTargetDevice => 0x0B

/-- The exception with a given code, if the code is one of the nine. -/
def ofCode? (c : UInt8) : Option Exception :=
  match c.toNat with
  | 0x01 => some illegalFunction
  | 0x02 => some illegalDataAddress
  | 0x03 => some illegalDataValue
  | 0x04 => some serverDeviceFailure
  | 0x05 => some acknowledge
  | 0x06 => some serverDeviceBusy
  | 0x08 => some memoryParityError
  | 0x0A => some gatewayPathUnavailable
  | 0x0B => some gatewayTargetDevice
  | _ => none

/-- The readable name of an exception. -/
def name : Exception → String
  | illegalFunction => "Illegal function"
  | illegalDataAddress => "Illegal data address"
  | illegalDataValue => "Illegal data value"
  | serverDeviceFailure => "Server device failure"
  | acknowledge => "Acknowledge"
  | serverDeviceBusy => "Server device busy"
  | memoryParityError => "Memory parity error"
  | gatewayPathUnavailable => "Gateway path unavailable"
  | gatewayTargetDevice => "Gateway target device failed to respond"

theorem ofCode?_code (e : Exception) : ofCode? e.code = some e := by
  cases e <;> rfl

end Exception

/-- A refusal: the function that was refused and the reason. -/
structure ExceptionReply where
  function : FunctionCode
  exception : Exception
  deriving Repr, DecidableEq

namespace ExceptionReply

/-- Reads a refusal from a marked function byte (at least `0x80`) and an exception code. -/
def ofBytes? : List UInt8 → Option ExceptionReply
  | marked :: code :: _ =>
    if marked < 0x80 then none
    else (Exception.ofCode? code).map fun e => ⟨⟨marked - 0x80⟩, e⟩
  | _ => none

end ExceptionReply

end RtuBus
