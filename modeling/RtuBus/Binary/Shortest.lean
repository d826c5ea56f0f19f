import RtuBus.Binary.Basic

/-! # The shortest decimal that reads back

The reals that round to a positive finite number `x` form an interval: from halfway to the
number below to halfway to the number above, both ends included exactly when the mantissa of
`x` is even (a tie then rounds to `x`). Below a power of two the number below is only half as
far away. `shortest` returns the decimal with the fewest significant digits in that interval,
and of two such decimals the nearer to `x`; an exact tie is settled by a rule of the caller.

The search tries 1, 2, … digits. For `n` digits the grid is `10^(K - n + 1)`, where `10^K` is
the largest power of ten not above `x`; the two neighbours of `x` on that grid are tested. A
decimal of at most `n` digits in the interval forces one of the two neighbours into it, since
the interval holds `x` and is convex.
-/

namespace RtuBus

namespace Binary

/-- The decimal `digits · 10^exp`. -/
structure Decimal where
  digits : Nat
  exp : Int
  deriving Repr, DecidableEq, Inhabited

/-- Which of two equally near candidates of the same length is taken. -/
inductive Tie where
  | even
  | up
  deriving Repr, DecidableEq

/-- The number of decimal digits of a natural number (one for zero). -/
def digitCount (n : Nat) : Nat :=
  if n < 10 then 1 else digitCount (n / 10) + 1
termination_by n
decreasing_by omega

/-- `⌊log₁₀ (num / den)⌋` of a positive ratio. -/
def floorLog10 (num den : Nat) : Int :=
  let t : Int := (digitCount num : Int) - digitCount den
  if 0 ≤ t then (if num < den * Nat.pow 10 t.toNat then t - 1 else t)
  else (if num * Nat.pow 10 (-t).toNat < den then t - 1 else t)

/-- Compares `a · 10^i` with `n · 2^j` exactly. -/
def cmpScaled (a : Nat) (i : Int) (n : Nat) (j : Int) : Ordering :=
  compare (a * Nat.pow 10 i.toNat * Nat.pow 2 (-j).toNat)
    (n * Nat.pow 2 j.toNat * Nat.pow 10 (-i).toNat)

/-- Removes trailing zeros of the significand into the exponent. -/
def Decimal.strip (d : Decimal) : Decimal :=
  if h : d.digits ≠ 0 ∧ d.digits % 10 = 0 then
    Decimal.strip ⟨d.digits / 10, d.exp + 1⟩
  else d
termination_by d.digits
decreasing_by show d.digits / 10 < d.digits; omega

namespace Finite

/-- The lower end of the interval of `x`, in units of `2^(x.exp - 2)`. -/
def lowEnd (F : Format) (x : Finite) : Nat :=
  if x.mant = Nat.pow 2 (F.precision - 1) ∧ F.minExp < x.exp then 4 * x.mant - 1
  else 4 * x.mant - 2

def highEnd (x : Finite) : Nat :=
  4 * x.mant + 2

/-- Whether the decimal `d` lies among the reals that round to `|x|`. -/
def readsBack (F : Format) (x : Finite) (d : Decimal) : Bool :=
  let incl := x.mant % 2 == 0
  let cl := cmpScaled d.digits d.exp (x.lowEnd F) (x.exp - 2)
  let ch := cmpScaled d.digits d.exp x.highEnd (x.exp - 2)
  (cl == .gt || (incl && cl == .eq)) && (ch == .lt || (incl && ch == .eq))

/-- `⌊log₁₀ |x|⌋` of a nonzero number. -/
def decimalScale (x : Finite) : Int :=
  floorLog10 (x.mant * Nat.pow 2 x.exp.toNat) (Nat.pow 2 (-x.exp).toNat)

/-- The decimals of `n` significant digits nearest to `|x|` below and above. -/
def neighbours (x : Finite) (n : Nat) : Decimal × Decimal :=
  let q := x.decimalScale - n + 1
  let a := (x.mant * Nat.pow 2 x.exp.toNat * Nat.pow 10 (-q).toNat) /
    (Nat.pow 2 (-x.exp).toNat * Nat.pow 10 q.toNat)
  (⟨a, q⟩, ⟨a + 1, q⟩)

/-- The candidate of `n` digits that reads back, if one does. -/
def candidate (F : Format) (tie : Tie) (x : Finite) (n : Nat) : Option Decimal :=
  let (lo, hi) := x.neighbours n
  match x.readsBack F lo, x.readsBack F hi with
  | false, false => none
  | true, false => some lo
  | false, true => some hi
  | true, true =>
    -- compare twice the value with the sum of the two candidates
    match cmpScaled (2 * lo.digits + 1) lo.exp (2 * x.mant) x.exp with
    | .gt => some lo
    | .lt => some hi
    | .eq =>
      match tie with
      | .up => some hi
      | .even => if lo.digits % 2 = 0 then some lo else some hi

def exactDecimal (x : Finite) : Decimal :=
  if 0 ≤ x.exp then ⟨x.mant * Nat.pow 2 x.exp.toNat, 0⟩
  else ⟨x.mant * Nat.pow 5 (-x.exp).toNat, x.exp⟩

/-- The shortest decimal that reads back as `|x|`, nearest of those, trailing zeros
removed; zero is `0`. Past twenty digits, which no format here needs, the exact value. -/
def shortest (F : Format) (tie : Tie) (x : Finite) : Decimal :=
  if x.mant = 0 then ⟨0, 0⟩
  else
    match (List.range' 1 20).findSome? (x.candidate F tie) with
    | some d => d.strip
    | none => x.exactDecimal.strip

end Finite


end Binary

end RtuBus
