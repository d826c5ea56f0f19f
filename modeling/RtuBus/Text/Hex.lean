/-! # Hexadecimal text

Bytes are written as two hexadecimal digits each. Reading accepts both cases and needs an
even number of digits; writing gives lower case. Messages show words and bytes in upper case,
padded with zeros to a fixed width.
-/

namespace RtuBus

namespace Hex

/-- The value of a hexadecimal digit of either case. -/
def digitValue? (c : Char) : Option Nat :=
  if '0' ≤ c ∧ c ≤ '9' then some (c.toNat - '0'.toNat)
  else if 'a' ≤ c ∧ c ≤ 'f' then some (c.toNat - 'a'.toNat + 10)
  else if 'A' ≤ c ∧ c ≤ 'F' then some (c.toNat - 'A'.toNat + 10)
  else none

/-- Reads pairs of digits into bytes; `none` for an odd count or a non-digit. -/
def bytesOfChars? : List Char → Option (List UInt8)
  | [] => some []
  | hi :: lo :: rest => do
    let h ← digitValue? hi
    let l ← digitValue? lo
    let tail ← bytesOfChars? rest
    pure ((h * 16 + l).toUInt8 :: tail)
  | [_] => none

def bytes? (s : String) : Option (List UInt8) :=
  bytesOfChars? s.toList

/-- The digit for a value below sixteen, in lower or upper case. -/
def digit (upper : Bool) (n : Nat) : Char :=
  if n < 10 then Char.ofNat ('0'.toNat + n)
  else Char.ofNat ((if upper then 'A' else 'a').toNat + n - 10)

def digits (upper : Bool) : Nat → Nat → List Char
  | 0, _ => []
  | width + 1, n => digits upper width (n / 16) ++ [digit upper (n % 16)]

def ofBytes (bs : List UInt8) : String :=
  String.ofList (bs.flatMap fun b => digits false 2 b.toNat)

/-- A number as upper-case hexadecimal text of `width` digits, padded with zeros. -/
def upper (width n : Nat) : String :=
  String.ofList (digits true width n)

example : ofBytes [0x0a, 0xff] = "0aff" := by decide
example : upper 4 0x0A84 = "0A84" := by decide

end Hex

end RtuBus
