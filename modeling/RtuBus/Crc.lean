/-! # The check word of an RTU frame

Every RTU frame ends in a CRC-16 of the bytes before it: the reflected code with generator
`0xA001` (the bit reversal of `x^16 + x^15 + x^2 + 1`) and seed `0xFFFF`. Each byte is mixed
into the low half of the register and then shifted out one bit at a time, least significant
bit first. The check word travels low byte first.
-/

namespace RtuBus

abbrev Bytes := List UInt8

namespace Crc

def generator : UInt16 := 0xA001

def seed : UInt16 := 0xFFFF

/-- One bit: shift the register right and fold the generator in when a one drops out. -/
def bitStep (crc : UInt16) : UInt16 :=
  if crc &&& 1 = 0 then crc >>> 1 else (crc >>> 1) ^^^ generator

def bitSteps : Nat → UInt16 → UInt16
  | 0, crc => crc
  | n + 1, crc => bitSteps n (bitStep crc)

/-- One byte: mix it into the low half of the register, then eight bit steps. -/
def byteStep (crc : UInt16) (b : UInt8) : UInt16 :=
  bitSteps 8 (crc ^^^ b.toUInt16)

def ofBytes (data : Bytes) : UInt16 :=
  data.foldl byteStep seed

/-- The two bytes of a check word in wire order, low byte first. -/
def trailer (crc : UInt16) : Bytes :=
  [crc.toUInt8, (crc >>> 8).toUInt8]

/-- The check word read back from its two wire bytes, low byte first. -/
def ofTrailer (lo hi : UInt8) : UInt16 :=
  lo.toUInt16 ||| (hi.toUInt16 <<< 8)

/-- A byte string followed by its own check word. -/
def withCheck (body : Bytes) : Bytes :=
  body ++ trailer (ofBytes body)

theorem ofBytes_append (a b : Bytes) :
    ofBytes (a ++ b) = b.foldl byteStep (ofBytes a) := by
  simp [ofBytes, List.foldl_append]

example : ofBytes [] = 0xFFFF := rfl
example : ofBytes [0x01, 0x03, 0x00, 0x00, 0x00, 0x01] = 0x0A84 := by decide +kernel

end Crc

end RtuBus
