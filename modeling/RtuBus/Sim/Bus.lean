import RtuBus.Line
import RtuBus.Frame.Codec

/-! # A simulated bus

A bus of slaves whose registers are a table, used to run the master without hardware. Every
request frame is recorded, and every switch of the line direction. A request is answered from
a queue of canned responses while there is one; otherwise an exception registered for the
slave, function and start register is returned, or a read is answered when every register it
asks for is in the table, or a write is stored and echoed when the holding register exists.
Flags make each line call fail, and can corrupt the last byte of every response.
-/

namespace RtuBus

/-- Switches that make the simulated line misbehave. -/
structure SimFlags where
  /-- Opening fails with `notFound`. -/
  failOpen : Bool := false
  /-- Closing fails with `connectionReset`. -/
  failClose : Bool := false
  /-- Sending fails with `brokenPipe`. -/
  failSend : Bool := false
  /-- Switching to transmit fails with `permissionDenied`. -/
  failTransmitOn : Bool := false
  /-- Switching to receive fails with `permissionDenied`. -/
  failTransmitOff : Bool := false
  /-- The last byte of every response has its lowest bit flipped. -/
  corrupt : Bool := false
  deriving Repr, DecidableEq, Inhabited

/-- A flag of the simulated line. -/
inductive SimFlag where
  | failOpen
  | failClose
  | failSend
  | failTransmitOn
  | failTransmitOff
  | corrupt
  deriving Repr, DecidableEq

namespace SimFlags

/-- The flags with one of them set to `b`. -/
def update (fs : SimFlags) (b : Bool) : SimFlag → SimFlags
  | .failOpen => { fs with failOpen := b }
  | .failClose => { fs with failClose := b }
  | .failSend => { fs with failSend := b }
  | .failTransmitOn => { fs with failTransmitOn := b }
  | .failTransmitOff => { fs with failTransmitOff := b }
  | .corrupt => { fs with corrupt := b }

end SimFlags

/-- The state of a simulated bus and of the line to it. -/
structure SimBus where
  registers : UInt8 → UInt8 → UInt16 → Option UInt16 := fun _ _ _ => none
  exceptions : UInt8 → UInt8 → UInt16 → Option UInt8 := fun _ _ _ => none
  /-- Canned responses, answered first; `none` is no response. -/
  canned : List (Option Bytes) := []
  flags : SimFlags := {}
  pending : Option Bytes := none
  opened : Nat := 0
  closed : Nat := 0
  openAttempts : Nat := 0
  /-- Frames sent since the record was last taken, oldest first. -/
  sent : List Bytes := []
  /-- Direction switches since the record was last taken: `true` for transmit. -/
  switches : List Bool := []

namespace SimBus

def setRegister (b : SimBus) (slave function : UInt8) (register value : UInt16) : SimBus :=
  { b with registers := fun s f r =>
      if s = slave ∧ f = function ∧ r = register then some value else b.registers s f r }

/-- The bus with an exception registered. -/
def setException (b : SimBus) (slave function : UInt8) (register : UInt16) (code : UInt8) :
    SimBus :=
  { b with exceptions := fun s f r =>
      if s = slave ∧ f = function ∧ r = register then some code else b.exceptions s f r }

def clear (b : SimBus) : SimBus :=
  { b with registers := fun _ _ _ => none, exceptions := fun _ _ _ => none, canned := [] }

/-- The record of frames and switches since the last time, and the bus with an empty record. -/
def takeRecord (b : SimBus) : (List Bytes × List Bool) × SimBus :=
  ((b.sent, b.switches), { b with sent := [], switches := [] })

/-- The answer of the slaves to a request frame, and the bus after it. -/
def answer (b : SimBus) (frame : Bytes) : Option Bytes × SimBus :=
  match frame with
  | slave :: f :: hi :: lo :: phi :: plo :: _ =>
    let start := wordOf hi lo
    let p := wordOf phi plo
    match b.exceptions slave f start with
    | some code => (some (Crc.withCheck [slave, f ||| 0x80, code]), b)
    | none =>
      if f = 3 ∨ f = 4 then
        let words := (List.range p.toNat).mapM fun k => b.registers slave f (start + k.toUInt16)
        (words.map (encodeReadResponse slave ⟨f⟩), b)
      else if f = 6 then
        match b.registers slave 3 start with
        | some _ => (some frame, b.setRegister slave 3 start p)
        | none => (none, b)
      else (none, b)
  | _ => (none, b)

/-- A response with its last byte corrupted when the flag says so. -/
def spoil (flags : SimFlags) (r : Bytes) : Bytes :=
  if flags.corrupt then
    match r.getLast? with
    | some last => r.dropLast ++ [last ^^^ 1]
    | none => r
  else r

/-- Records a sent frame and prepares the response. -/
def deliver (frame : Bytes) (b : SimBus) : SimBus :=
  let b := { b with sent := b.sent ++ [frame] }
  let (response, b) := match b.canned with
    | r :: rest => (r, { b with canned := rest })
    | [] => b.answer frame
  { b with pending := response.map (spoil b.flags) }

/-- The simulated line. -/
def line : Line SimBus where
  connect := modifyGet fun b =>
    let b := { b with openAttempts := b.openAttempts + 1 }
    if b.flags.failOpen then (.error .notFound, b) else (.ok (), { b with opened := b.opened + 1 })
  disconnect := modifyGet fun b =>
    if b.flags.failClose then (.error .connectionReset, b)
    else (.ok (), { b with closed := b.closed + 1 })
  setTransmit on := modifyGet fun b =>
    let b := { b with switches := b.switches ++ [on] }
    if (on && b.flags.failTransmitOn) || (!on && b.flags.failTransmitOff) then
      (.error .permissionDenied, b)
    else (.ok (), b)
  send frame _ := modifyGet fun b =>
    if b.flags.failSend then (.error .brokenPipe, b) else (.ok (), deliver frame b)
  receive maxLen _ := modifyGet fun b =>
    match b.pending with
    | none => (.error .timedOut, b)
    | some r => (.ok (r.take maxLen), { b with pending := none })

end SimBus

end RtuBus
