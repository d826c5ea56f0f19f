import RtuBus.Binary.Shortest

/-! # Writing a decimal

A decimal is written positionally when the exponent of its leading digit lies in a range of
the layout, always with a fractional part (`20.0`), and otherwise as one digit, the other
digits after a point, and the exponent (`1.8446744073709552e+19`). Where positional notation
ends, how the exponent is marked and which way ties go are the fields of `Layout`; every
output format that writes numbers holds one such record.
-/

namespace RtuBus

namespace Binary

/-- The decisions of a number format. -/
structure Layout where
  /-- The least exponent of the leading digit written positionally. -/
  lowest : Int
  /-- The largest exponent of the leading digit written positionally. -/
  highest : Int
  plusSign : Bool
  tie : Tie
  deriving Repr, DecidableEq

def zeros (n : Nat) : List Char :=
  List.replicate n '0'

/-- The digits of a decimal, positionally: `lead` is the exponent of the leading digit. -/
def positional (ds : List Char) (lead : Int) : List Char :=
  if 0 ≤ lead then
    let whole := lead.toNat + 1
    if ds.length ≤ whole then ds ++ zeros (whole - ds.length) ++ ['.', '0']
    else ds.take whole ++ '.' :: ds.drop whole
  else '0' :: '.' :: zeros ((-lead).toNat - 1) ++ ds

/-- The digits of a decimal with an exponent: one digit, the rest after a point. -/
def scientific (plusSign : Bool) (ds : List Char) (lead : Int) : List Char :=
  let mant := match ds with
    | d :: rest@(_ :: _) => d :: '.' :: rest
    | _ => ds
  let sign := if lead < 0 then ['-'] else if plusSign then ['+'] else []
  mant ++ 'e' :: sign ++ (toString lead.natAbs).toList

namespace Layout

/-- The text of a decimal under this layout, with a leading minus for `neg`. -/
def decimal (L : Layout) (neg : Bool) (d : Decimal) : String :=
  let sign := if neg then ['-'] else []
  if d.digits = 0 then String.ofList (sign ++ ['0', '.', '0'])
  else
    let ds := (toString d.digits).toList
    let lead := d.exp + ds.length - 1
    let body := if L.lowest ≤ lead ∧ lead ≤ L.highest then positional ds lead
      else scientific L.plusSign ds lead
    String.ofList (sign ++ body)

/-- The text of a finite number of format `F`: its shortest decimal under this layout. -/
def finite (L : Layout) (F : Format) (x : Finite) : String :=
  L.decimal x.neg (x.shortest F L.tie)

end Layout

example : ({ lowest := -5, highest := 15, plusSign := true, tie := .even } : Layout).decimal
    false ⟨18446744073709552, 3⟩ = "1.8446744073709552e+19" := by decide +kernel

end Binary

end RtuBus
