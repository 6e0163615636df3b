import PodPlacement.Decimal.Basic

/-!
The shortest decimal that reads back as a given double. A finite double is `m * 2 ^ q`, and the
reals that round to it form an interval around it. For each number of digits in turn the two
decimals next to the value are tried in exact arithmetic; the first hit, or the nearer of two, is
the answer.
-/

namespace PodPlacement.Decimal

/-- A finite double as `mantissa * 2 ^ exponent`; `halfStepBelow` says that the next double below it
is only half as far away as the next one above. -/
structure Binary where
  mantissa : Nat
  exponent : Int
  halfStepBelow : Bool
deriving DecidableEq, Repr

def Binary.ofBits (bits : UInt64) : Binary :=
  let fraction : Nat := bits.toNat % 0x10000000000000
  let biased : Nat := bits.toNat / 0x10000000000000 % 0x800
  if biased = 0 then ⟨fraction, -1074, false⟩
  else ⟨fraction + 0x10000000000000, (biased : Int) - 1075, fraction = 0 ∧ 1 < biased⟩

/-- The value and its two rounding limits, all times one factor that makes them whole; `unit` is
one at that scale. -/
structure Interval where
  value : Nat
  low : Nat
  high : Nat
  unit : Nat
  closed : Bool
deriving DecidableEq, Repr

def Binary.interval (b : Binary) : Interval :=
  let up := if 0 ≤ b.exponent then Nat.pow 2 b.exponent.toNat else 1
  let unit := if 0 ≤ b.exponent then 4 else 4 * Nat.pow 2 (-b.exponent).toNat
  let below := if b.halfStepBelow then 1 else 2
  ⟨4 * b.mantissa * up, (4 * b.mantissa - below) * up, (4 * b.mantissa + 2) * up, unit,
    b.mantissa % 2 = 0⟩

def Interval.contains (i : Interval) (n : Nat) : Bool :=
  if i.closed then i.low ≤ n && n ≤ i.high else i.low < n && n < i.high

def Interval.scale (i : Interval) (exponent : Int) : Interval :=
  if 0 ≤ exponent then { i with unit := i.unit * Nat.pow 10 exponent.toNat }
  else
    let k := Nat.pow 10 (-exponent).toNat
    { i with value := i.value * k, low := i.low * k, high := i.high * k }

def Interval.pick? (i : Interval) : Option Nat :=
  let below := i.value / i.unit
  let above := below + 1
  let fits n := 0 < n && i.contains (n * i.unit)
  if fits below && fits above then
    let rest := i.value - below * i.unit
    some (if 2 * rest < i.unit then below
      else if i.unit < 2 * rest then above
      else if below % 2 = 0 then below else above)
  else if fits below then some below
  else if fits above then some above
  else none

def leadingExponent (n d : Nat) : Int :=
  let guess : Int := digitCount n - digitCount d
  let reached : Bool :=
    if 0 ≤ guess then d * Nat.pow 10 guess.toNat ≤ n else d ≤ n * Nat.pow 10 (-guess).toNat
  if reached then guess else guess - 1

/-- Digits and exponent of the shortest decimal for a positive finite double; seventeen digits
always suffice. -/
def shortestOf (b : Binary) : Nat × Int :=
  let i := b.interval
  let lead := leadingExponent i.value i.unit
  let tries := (List.range 17).findSome? fun (k : Nat) ↦
    let e : Int := lead - k
    ((i.scale e).pick?).map fun n ↦ (n, e)
  tries.getD (0, 0)

def normalize : Nat → Nat × Int → Nat × Int
  | 0, d => d
  | fuel + 1, (n, e) => if n ≠ 0 ∧ n % 10 = 0 then normalize fuel (n / 10, e + 1) else (n, e)

def ofFloat (x : Float) : Decimal :=
  let bits := x.toBits
  let negative := 0x8000000000000000 ≤ bits.toNat
  let b := Binary.ofBits bits
  if b.mantissa = 0 then ⟨negative, 0, 0⟩
  else
    let (n, e) := normalize 20 (shortestOf b)
    ⟨negative, n, e⟩

end PodPlacement.Decimal
