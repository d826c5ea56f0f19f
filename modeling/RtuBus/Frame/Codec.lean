import RtuBus.Crc
import RtuBus.Frame.Request

/-! # Encoding requests and checking responses

A request frame is eight bytes: slave, function, start register and a payload word (the
register count of a read, the value of a write), both high byte first, then the check word.
A response is checked in a fixed order and the first failing check is the answer: length
(a well-formed refusal of the same request wins over a length error), check word, slave
address, function code, byte count.
-/

namespace RtuBus

/-- A word as two bytes, high byte first. -/
def wordBytes (w : UInt16) : Bytes :=
  [(w >>> 8).toUInt8, w.toUInt8]

def wordOf (hi lo : UInt8) : UInt16 :=
  (hi.toUInt16 <<< 8) ||| lo.toUInt16

/-- Reads words, high byte first, from consecutive byte pairs; an odd last byte is dropped. -/
def wordsOf : Bytes → List UInt16
  | hi :: lo :: rest => wordOf hi lo :: wordsOf rest
  | _ => []

/-- An eight-byte request frame as it goes on the wire. -/
structure RequestFrame where
  slave : UInt8
  function : UInt8
  /-- Bytes two to five: start register and payload word. -/
  payload : UInt8 × UInt8 × UInt8 × UInt8
  /-- The check word bytes, low byte first. -/
  check : UInt8 × UInt8
  deriving Repr, DecidableEq

namespace RequestFrame

def toBytes (r : RequestFrame) : Bytes :=
  [r.slave, r.function, r.payload.1, r.payload.2.1, r.payload.2.2.1, r.payload.2.2.2,
    r.check.1, r.check.2]

/-- Reads a frame of exactly eight bytes. The check word is taken as it stands. -/
def ofBytes? : Bytes → Option RequestFrame
  | [s, f, a, b, c, d, lo, hi] => some ⟨s, f, (a, b, c, d), (lo, hi)⟩
  | _ => none

/-- The frame of six header bytes sealed with their check word. -/
def ofHeader (slave function : UInt8) (start payload : UInt16) : RequestFrame :=
  let head := [slave, function] ++ wordBytes start ++ wordBytes payload
  let crc := Crc.ofBytes head
  ⟨slave, function, ((start >>> 8).toUInt8, start.toUInt8, (payload >>> 8).toUInt8,
    payload.toUInt8), (crc.toUInt8, (crc >>> 8).toUInt8)⟩

end RequestFrame

namespace Request

def payload : Request → UInt16
  | readHolding _ n | readInput _ n | writeSingle _ n => n

def start : Request → UInt16
  | readHolding a _ | readInput a _ | writeSingle a _ => a

/-- The frame of a request to `slave`. The slave is checked first, then the count of a read. -/
def encode? (slave : UInt8) (req : Request) : Except BusError RequestFrame :=
  if !isUnicast slave then .error .invalidArgument
  else match req with
    | readHolding _ n | readInput _ n =>
      if !isReadCount n then .error .invalidArgument
      else .ok (RequestFrame.ofHeader slave req.function.value req.start n)
    | writeSingle a v => .ok (RequestFrame.ofHeader slave req.function.value a v)

end Request

/-- The frame reading `count` registers with function `f`: the function is checked first. -/
def buildReadRequest? (slave : UInt8) (f : FunctionCode) (start count : UInt16) :
    Except BusError RequestFrame := do
  (← Request.read? f start count).encode? slave

def buildWriteSingle? (slave : UInt8) (start value : UInt16) : Except BusError RequestFrame :=
  (Request.writeSingle start value).encode? slave

/-- The response of `slave` to a read with function `f` that returns `words`: address,
function, byte count, the words high byte first, and the check word. -/
def encodeReadResponse (slave : UInt8) (f : FunctionCode) (words : List UInt16) : Bytes :=
  Crc.withCheck (slave :: f.value :: (2 * words.length).toUInt8 :: words.flatMap wordBytes)

/-- The frame in which `slave` refuses a request: the function with its high bit set, the
exception code, and the check word. -/
def ExceptionReply.encode (slave : UInt8) (r : ExceptionReply) : Bytes :=
  Crc.withCheck [slave, r.function.value + 0x80, r.exception.code]

/-- Checks the trailing check word of a complete frame of at least three bytes. -/
def verifyCrc (adu : Bytes) : Except BusError Unit :=
  if adu.length < 3 then .error (.lengthMismatch 3 adu.length)
  else
    let body := adu.take (adu.length - 2)
    match adu.drop (adu.length - 2) with
    | [lo, hi] =>
      let expected := Crc.ofTrailer lo hi
      let actual := Crc.ofBytes body
      if expected = actual then .ok () else .error (.crcMismatch expected actual)
    | _ => .error (.lengthMismatch 3 adu.length)

/-- Whether a check succeeded. -/
def passes (r : Except BusError Unit) : Bool :=
  match r with
  | .ok () => true
  | .error _ => false

/-- The refusal in a five-byte frame with a good check word from `slave`, refusing `f`. -/
def decodeException? (adu : Bytes) (slave : UInt8) (f : FunctionCode) : Option ExceptionReply :=
  match adu with
  | [s, marked, code, lo, hi] =>
    if !passes (verifyCrc [s, marked, code, lo, hi]) || s != slave then none
    else match ExceptionReply.ofBytes? [marked, code] with
      | some r => if r.function = f then some r else none
      | none => none
  | _ => none

/-- The registers of a read response: `count` words of `slave` for function `f`. -/
def parseReadResponse (adu : Bytes) (slave : UInt8) (f : FunctionCode) (count : UInt16) :
    Except BusError (List UInt16) :=
  if !isReadCount count then .error .invalidArgument
  else
    let expected := 5 + count.toNat * 2
    if adu.length ≠ expected then
      match decodeException? adu slave f with
      | some r => .error (.exception r.function r.exception)
      | none => .error (.lengthMismatch expected adu.length)
    else do
      verifyCrc adu
      match adu with
      | s :: fn :: byteCount :: rest =>
        if s != slave then throw (.addressMismatch slave s)
        if fn != f.value then throw (.functionMismatch f.value fn)
        let want := (count * 2).toUInt8
        if byteCount != want then throw (.byteCountMismatch want byteCount)
        pure (wordsOf (rest.take (count.toNat * 2)))
      | _ => throw (.lengthMismatch expected adu.length)

/-- Checks that a write response is the echo of `request`. -/
def parseWriteSingleResponse (adu : Bytes) (request : RequestFrame) : Except BusError Unit :=
  let f : FunctionCode := ⟨request.function⟩
  if adu.length ≠ 8 then
    match decodeException? adu request.slave f with
    | some r => .error (.exception r.function r.exception)
    | none => .error (.lengthMismatch 8 adu.length)
  else do
    verifyCrc adu
    match adu with
    | [s, fn, a, b, c, d, _, _] =>
      if s != request.slave then throw (.addressMismatch request.slave s)
      if fn != request.function then throw (.functionMismatch request.function fn)
      if (a, b, c, d) != request.payload then throw .echoMismatch
      pure ()
    | _ => throw (.lengthMismatch 8 adu.length)

example : (buildReadRequest? 1 FunctionCode.readHolding 0 1).toOption.map RequestFrame.toBytes =
    some [0x01, 0x03, 0x00, 0x00, 0x00, 0x01, 0x84, 0x0a] := by decide +kernel

end RtuBus
