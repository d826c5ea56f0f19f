import RtuBus.Frame.Codec

/-! # The frame checks with their partial steps

The checks of a response written step by step as the wire code takes them, with each step that
can stop the program made explicit: reading a byte at an index, cutting out a range, splitting
the bytes in two, and arithmetic on sizes, words and bytes. Such a step fails with a `Fault`
when its index or range lies outside the bytes, or when its result lies outside its type; a
conversion to a byte that would lose bits counts as a fault too. Everything else is as in the
codec: the same checks in the same order, with the same errors.
-/

namespace RtuBus

/-- Why a run of the wire code would stop. -/
inductive Fault where
  | index (i len : Nat)
  | range (lo hi len : Nat)
  | overflow
  deriving Repr, DecidableEq

abbrev Checked := Except Fault

namespace Checked

/-- The byte at index `i`. -/
def get (xs : Bytes) (i : Nat) : Checked UInt8 :=
  match xs[i]? with
  | some x => .ok x
  | none => .error (.index i xs.length)

def slice (xs : Bytes) (lo hi : Nat) : Checked Bytes :=
  if lo ≤ hi ∧ hi ≤ xs.length then .ok ((xs.take hi).drop lo)
  else .error (.range lo hi xs.length)

def splitAt (xs : Bytes) (mid : Nat) : Checked (Bytes × Bytes) :=
  if mid ≤ xs.length then .ok (xs.take mid, xs.drop mid) else .error (.range mid mid xs.length)

/-- The largest size plus one: sizes are 64-bit. -/
def sizeLimit : Nat := Nat.pow 2 64

def addSize (a b : Nat) : Checked Nat :=
  if a + b < sizeLimit then .ok (a + b) else .error .overflow

def mulSize (a b : Nat) : Checked Nat :=
  if a * b < sizeLimit then .ok (a * b) else .error .overflow

/-- The difference of two sizes, which must not go below zero. -/
def subSize (a b : Nat) : Checked Nat :=
  if b ≤ a then .ok (a - b) else .error .overflow

def mulWord (a b : UInt16) : Checked UInt16 :=
  if a.toNat * b.toNat < 65536 then .ok (a * b) else .error .overflow

/-- The difference of two bytes, which must not go below zero. -/
def subByte (a b : UInt8) : Checked UInt8 :=
  if b ≤ a then .ok (a - b) else .error .overflow

/-- A word as a byte, which must not lose bits. -/
def narrow (w : UInt16) : Checked UInt8 :=
  if w.toNat < 256 then .ok w.toUInt8 else .error .overflow

theorem get_of_lt {xs : Bytes} {i : Nat} (h : i < xs.length) : get xs i = .ok xs[i] := by
  simp [get, List.getElem?_eq_getElem h]

theorem slice_of_le {xs : Bytes} {lo hi : Nat} (hlo : lo ≤ hi) (hhi : hi ≤ xs.length) :
    slice xs lo hi = .ok ((xs.take hi).drop lo) := by
  simp [slice, hlo, hhi]

theorem splitAt_of_le {xs : Bytes} {mid : Nat} (h : mid ≤ xs.length) :
    splitAt xs mid = .ok (xs.take mid, xs.drop mid) := by
  simp [splitAt, h]

theorem addSize_of_lt {a b : Nat} (h : a + b < sizeLimit) : addSize a b = .ok (a + b) := by
  simp [addSize, h]

theorem mulSize_of_lt {a b : Nat} (h : a * b < sizeLimit) : mulSize a b = .ok (a * b) := by
  simp [mulSize, h]

theorem subSize_of_le {a b : Nat} (h : b ≤ a) : subSize a b = .ok (a - b) := by
  simp [subSize, h]

theorem mulWord_of_lt {a b : UInt16} (h : a.toNat * b.toNat < 65536) :
    mulWord a b = .ok (a * b) := by
  simp [mulWord, h]

theorem subByte_of_le {a b : UInt8} (h : b ≤ a) : subByte a b = .ok (a - b) := by
  simp [subByte, h]

theorem narrow_of_lt {w : UInt16} (h : w.toNat < 256) : narrow w = .ok w.toUInt8 := by
  simp [narrow, h]

-- each step stops where the machine would
example : get [1, 2] 2 = .error (.index 2 2) := rfl
example : slice [1, 2, 3] 2 4 = .error (.range 2 4 3) := rfl
example : subByte 0x7F 0x80 = .error .overflow := rfl
example : narrow 256 = .error .overflow := rfl

/-- The word in the first two bytes, low byte first. -/
def readLE (xs : Bytes) : Checked UInt16 := do
  let lo ← get xs 0
  let hi ← get xs 1
  pure (Crc.ofTrailer lo hi)

theorem readLE_pair (lo hi : UInt8) : readLE [lo, hi] = .ok (Crc.ofTrailer lo hi) := rfl

/-- Checks the trailing check word of a complete frame: the frame is split before its last two
bytes, which are read as the check word of the bytes before them. -/
def verifyCrc (adu : Bytes) : Checked (Except BusError Unit) := do
  if adu.length < 3 then return .error (.lengthMismatch 3 adu.length)
  let (body, crcBytes) ← splitAt adu (← subSize adu.length 2)
  let expected ← readLE crcBytes
  let actual := Crc.ofBytes body
  if expected ≠ actual then return .error (.crcMismatch expected actual)
  return .ok ()

/-- Reads a refusal from a marked function byte and an exception code, the first two bytes. -/
def exceptionOfBytes (bytes : Bytes) : Checked (Option ExceptionReply) :=
  match bytes with
  | marked :: code :: _ => do
    if marked < 0x80 then return none
    let function ← subByte marked 0x80
    return (Exception.ofCode? code).map fun e => ⟨⟨function⟩, e⟩
  | _ => pure none

/-- The refusal in a five-byte frame with a good check word from `slave`, refusing `f`. Each
test is made only when those before it passed: the length, then the check word, then the
address at index 0; the refusal is read from the bytes at indices 1 and 2. -/
def decodeException (adu : Bytes) (slave : UInt8) (f : FunctionCode) :
    Checked (Option ExceptionReply) := do
  if adu.length ≠ 5 then return none
  if !passes (← verifyCrc adu) then return none
  if (← get adu 0) ≠ slave then return none
  match ← exceptionOfBytes (← slice adu 1 3) with
  | some r => return if r.function = f then some r else none
  | none => return none

/-- The registers of a read response, with every index, range and size computed as the wire
code does: the expected length from the count, the byte count as twice the count narrowed to a
byte, and the data between the byte count and the check word. -/
def parseReadResponse (adu : Bytes) (slave : UInt8) (f : FunctionCode) (count : UInt16) :
    Checked (Except BusError (List UInt16)) := do
  if !isReadCount count then return .error .invalidArgument
  let expected ← addSize 5 (← mulSize count.toNat 2)
  if adu.length ≠ expected then
    match ← decodeException adu slave f with
    | some r => return .error (.exception r.function r.exception)
    | none => return .error (.lengthMismatch expected adu.length)
  match ← verifyCrc adu with
  | .error e => return .error e
  | .ok () =>
    let s ← get adu 0
    if s ≠ slave then return .error (.addressMismatch slave s)
    let fn ← get adu 1
    if fn ≠ f.value then return .error (.functionMismatch f.value fn)
    let byteCount ← narrow (← mulWord count 2)
    let actual ← get adu 2
    if actual ≠ byteCount then return .error (.byteCountMismatch byteCount actual)
    let data ← slice adu 3 (← subSize expected 2)
    return .ok (wordsOf data)

/-- Checks that a write response is the echo of the eight bytes of `request`, reading the
request's address and function at indices 0 and 1 and comparing bytes 2 to 5 of both. -/
def parseWriteSingleResponse (adu : Bytes) (request : RequestFrame) :
    Checked (Except BusError Unit) := do
  let sent := request.toBytes
  let slave ← get sent 0
  let function ← get sent 1
  if adu.length ≠ 8 then
    match ← decodeException adu slave ⟨function⟩ with
    | some r => return .error (.exception r.function r.exception)
    | none => return .error (.lengthMismatch 8 adu.length)
  match ← verifyCrc adu with
  | .error e => return .error e
  | .ok () =>
    let s ← get adu 0
    if s ≠ slave then return .error (.addressMismatch slave s)
    let fn ← get adu 1
    if fn ≠ function then return .error (.functionMismatch function fn)
    if (← slice adu 2 6) ≠ (← slice sent 2 6) then return .error .echoMismatch
    return .ok ()

end Checked

end RtuBus
