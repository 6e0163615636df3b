/-!
Decimal numbers as they are written, and their two readings as a double: the nearest one, and the
scaled one that rounds the digits first and then multiplies or divides by powers of ten.
-/

namespace PodPlacement

/-- The number `significand * 10 ^ exponent`, with its sign kept apart so that zero has two. -/
structure Decimal where
  negative : Bool
  significand : Nat
  exponent : Int
deriving DecidableEq, Repr, Inhabited

namespace Decimal

def signed (negative : Bool) (x : Float) : Float := if negative then -x else x

def infinity : Float := 1.0 / 0.0

def digitCount (n : Nat) : Nat := (Nat.toDigits 10 n).length

/-- The double nearest to the number, a tie going to the even one. Numbers that no finite double
rounds to are settled by their order of magnitude. -/
def toFloat (d : Decimal) : Float :=
  let magnitude := d.exponent + digitCount d.significand
  signed d.negative <|
    if d.significand = 0 then 0.0
    else if 310 < magnitude then infinity
    else if magnitude < -330 then 0.0
    else if 0 ≤ d.exponent then Float.ofScientific d.significand false d.exponent.toNat
    else Float.ofScientific d.significand true (-d.exponent).toNat

def maxScale : Nat := 308

def powerOfTen (e : Nat) : Float := Float.ofScientific 1 false e

def scaleDown (x : Float) (e : Nat) : Float :=
  if e ≤ maxScale then x / powerOfTen e
  else if x == 0.0 then x
  else scaleDown (x / powerOfTen maxScale) (e - maxScale)
termination_by e
decreasing_by simp only [maxScale] at *; omega

/-- The digits rounded to a double, then scaled; `none` when the result leaves the doubles. -/
def toFloatScaled? (d : Decimal) : Option Float :=
  let digits := Float.ofScientific d.significand false 0
  if 0 ≤ d.exponent then
    if d.significand = 0 then some (signed d.negative digits)
    else if maxScale < d.exponent.toNat then none
    else
      let x := digits * powerOfTen d.exponent.toNat
      if x.isInf then none else some (signed d.negative x)
  else some (signed d.negative (scaleDown digits (-d.exponent).toNat))

end Decimal

end PodPlacement
