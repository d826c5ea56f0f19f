import RtuBus.Binary.Text

/-! # Readings

A device sends integers; the value in its unit is the integer divided by a fixed scale, as a
single-precision number (`raw / scale`, correctly rounded). A reading keeps the integer and
the scale, and its value and text are computed from them. Readings are written as the
shortest decimal that reads back as the same single-precision number, positionally from
`1e-4` up to below `1e16`, always with a fractional part.
-/

namespace RtuBus

/-- A scaled integer from a device. -/
structure Reading where
  /-- The integer the device sent, signed where the device sends a signed value. -/
  raw : Int
  /-- The divisor that gives the value in its unit. -/
  scale : Nat
  deriving Repr, DecidableEq, Inhabited

namespace Reading

def layout : Binary.Layout :=
  { lowest := -4, highest := 15, plusSign := false, tie := .up }

def ofWord (w : UInt16) (scale : Nat) : Reading :=
  ⟨w.toNat, scale⟩

/-- The reading of a register holding a signed 16-bit value. -/
def ofSigned (w : UInt16) (scale : Nat) : Reading :=
  ⟨w.toInt16.toInt, scale⟩

def value (r : Reading) : Binary.Finite :=
  (Binary.single.round (decide (r.raw < 0)) r.raw.natAbs r.scale 0).getD
    ⟨decide (r.raw < 0), 0, Binary.single.minExp⟩

def text (r : Reading) : String :=
  layout.finite Binary.single r.value

end Reading

end RtuBus
