import PodPlacement.Decimal.Shortest

/-!
Laying out a decimal as text: positional with at least one decimal, or with an exponent when the
number is too small or too large for that.
-/

namespace PodPlacement

/-- Numbers from `10 ^ low` up to `10 ^ high` are written without an exponent. -/
structure DecimalLayout where
  low : Int
  high : Int
  infinity : String
  notANumber : String
deriving DecidableEq, Repr

namespace Decimal

def positional (digits : List Char) (exponent : Int) : List Char :=
  let point := digits.length + exponent
  if 0 ≤ exponent then digits ++ List.replicate exponent.toNat '0' ++ ['.', '0']
  else if 0 < point then digits.take point.toNat ++ '.' :: digits.drop point.toNat
  else '0' :: '.' :: List.replicate (-point).toNat '0' ++ digits

def scientific (digits : List Char) (lead : Int) : List Char :=
  let mantissa := match digits with
    | first :: second :: rest => first :: '.' :: second :: rest
    | ds => ds
  mantissa ++ 'e' :: (toString lead).toList

def layOut (layout : DecimalLayout) (d : Decimal) : String :=
  let digits := Nat.toDigits 10 d.significand
  let lead : Int := digits.length - 1 + d.exponent
  let body :=
    if d.significand = 0 then ['0', '.', '0']
    else if layout.low ≤ lead ∧ lead < layout.high then positional digits d.exponent
    else scientific digits lead
  String.ofList (if d.negative then '-' :: body else body)

end Decimal

def DecimalLayout.text (layout : DecimalLayout) (x : Float) : String :=
  if x.isNaN then layout.notANumber
  else if x.isInf then if x < 0.0 then "-" ++ layout.infinity else layout.infinity
  else (Decimal.ofFloat x).layOut layout

end PodPlacement
