import PodPlacement.Error
import PodPlacement.Decimal.Numeral

/-!
Amounts of one resource as text. CPU is read into thousandths of a core, anything else into whole
units such as bytes, with decimal or binary suffixes. Fractions are rounded up, and what is too
large for 64 bits becomes the nearest bound.
-/

namespace PodPlacement.Quantity

open Text

/-- Rounded up to a whole number within 64 bits; zero when it is no number. -/
def ceilInt (x : Float) : Int := x.ceil.toInt64.toInt

def dropSuffix? (suffix cs : List Char) : Option (List Char) :=
  if suffix.isSuffixOf cs then some (cs.take (cs.length - suffix.length)) else none

def readCpu (s : String) : Except ClusterError Int :=
  match dropSuffix? ['m'] s.toList with
  | some digits =>
    match readInteger .signed64 digits with
    | .ok n => .ok n
    | .error e => .error (.invalidQuantity s ("invalid millicore value: " ++ e.message))
  | none =>
    match Numeral.read s.toList with
    | .ok cores => .ok (ceilInt (cores.toFloat * 1000.0))
    | .error _ => .error (.invalidQuantity s "invalid CPU format")

def unitSuffixes : List (String × Nat) :=
  [("Ki", Nat.pow 2 10), ("Mi", Nat.pow 2 20), ("Gi", Nat.pow 2 30), ("Ti", Nat.pow 2 40),
    ("Pi", Nat.pow 2 50), ("Ei", Nat.pow 2 60), ("k", Nat.pow 10 3), ("M", Nat.pow 10 6),
    ("G", Nat.pow 10 9), ("T", Nat.pow 10 12), ("P", Nat.pow 10 15), ("E", Nat.pow 10 18)]

def splitUnit (cs : List Char) : List Char × Nat :=
  (unitSuffixes.findSome? fun (suffix, factor) ↦
    (dropSuffix? suffix.toList cs).map (·, factor)).getD (cs, 1)

def readScaled (s : String) (digits : List Char) (factor : Nat) : Except ClusterError Int :=
  match Numeral.read digits with
  | .ok n => .ok (ceilInt (n.toFloat * Float.ofNat factor))
  | .error e => .error (.invalidQuantity s e.message)

/-- Integers without a suffix are exact, everything else goes through doubles. -/
def readBytes (s : String) : Except ClusterError Int :=
  let (digits, factor) := splitUnit s.toList
  if factor = 1 then
    match readInteger .signed64 digits with
    | .ok n => .ok n
    | .error _ => readScaled s digits factor
  else readScaled s digits factor

/-- The amount of the named resource; text that cannot be read counts as nothing. -/
def ofNamed (name text : String) : Int :=
  ((if name = "cpu" then readCpu text else readBytes text).toOption).getD 0

end PodPlacement.Quantity
