/-! # Binary floating-point numbers

A binary format keeps `precision` significant bits. A finite number is `±mant · 2^exp` with
`mant < 2^precision` and `exp` within the bounds of the format, and `mant ≥ 2^(precision-1)`
unless `exp` is the least exponent (the subnormal range). Rounding takes a ratio of naturals
scaled by a power of two to the nearest such number, a tie to the even mantissa; a result
beyond the largest finite number is an overflow. Products and quotients are rounded from
their exact values, so every operation here is one correctly rounded step.
-/

namespace RtuBus

namespace Binary

/-- A binary interchange format: significant bits and the range of the exponent of the
last place. -/
structure Format where
  precision : Nat
  /-- The exponent of the last place of subnormal numbers. -/
  minExp : Int
  /-- The largest exponent of the last place of a finite number. -/
  maxExp : Int
  deriving Repr, DecidableEq

def single : Format := ⟨24, -149, 104⟩

def double : Format := ⟨53, -1074, 971⟩

/-- A finite number `±mant · 2^exp`. -/
structure Finite where
  neg : Bool
  mant : Nat
  exp : Int
  deriving Repr, DecidableEq, Inhabited

/-- `⌊log₂ (num / den)⌋` of a positive ratio. -/
def floorLog2 (num den : Nat) : Int :=
  let t : Int := (num.log2 : Int) - den.log2
  if 0 ≤ t then (if num < den * Nat.pow 2 t.toNat then t - 1 else t)
  else (if num * Nat.pow 2 (-t).toNat < den then t - 1 else t)

/-- `num / den` rounded to the nearest natural number, a tie to the even one. -/
def roundHalfEven (num den : Nat) : Nat :=
  let q := num / den
  let r := num % den
  if den < 2 * r ∨ (2 * r = den ∧ q % 2 = 1) then q + 1 else q

namespace Format

/-- The number of the format nearest to `num / den · 2^k` with sign `neg`; `none` when it
lies beyond the largest finite number. A zero ratio gives a zero of that sign. -/
def round (F : Format) (neg : Bool) (num den : Nat) (k : Int) : Option Finite :=
  if num = 0 ∨ den = 0 then some ⟨neg, 0, F.minExp⟩
  else
    let e := max F.minExp (floorLog2 num den + k - ((F.precision : Int) - 1))
    let s := k - e
    let m := if 0 ≤ s then roundHalfEven (num * Nat.pow 2 s.toNat) den
      else roundHalfEven num (den * Nat.pow 2 (-s).toNat)
    let carry := m = Nat.pow 2 F.precision
    let m := if carry then Nat.pow 2 (F.precision - 1) else m
    let e := if carry then e + 1 else e
    if F.maxExp < e then none else some ⟨neg, m, e⟩

def ofNat (F : Format) (n : Nat) : Option Finite :=
  F.round false n 1 0

def mul (F : Format) (x y : Finite) : Option Finite :=
  F.round (x.neg != y.neg) (x.mant * y.mant) 1 (x.exp + y.exp)

/-- The rounded quotient by a nonzero number. -/
def div (F : Format) (x y : Finite) : Option Finite :=
  F.round (x.neg != y.neg) x.mant y.mant (x.exp - y.exp)

def ratio (F : Format) (num den : Nat) : Option Finite :=
  F.round false num den 0

end Format

namespace Finite

def negate (x : Finite) : Finite :=
  { x with neg := !x.neg }

end Finite

example : single.ratio 612 10 = some ⟨false, 16043213, -18⟩ := by decide +kernel

end Binary

end RtuBus
