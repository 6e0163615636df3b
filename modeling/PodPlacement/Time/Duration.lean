import PodPlacement.Json.Basic

/-!
Lengths of time in seconds and nanoseconds, and their text in the largest unit that has a nonzero
whole part.
-/

namespace PodPlacement

structure Duration where
  seconds : Nat
  nanos : Nat
deriving DecidableEq, Repr, Inhabited

namespace Duration

def zero : Duration := ⟨0, 0⟩

def nanosPerSecond : Nat := 1000000000

def toNanos (d : Duration) : Nat := d.seconds * nanosPerSecond + d.nanos

def ofNanos (n : Nat) : Duration := ⟨n / nanosPerSecond, n % nanosPerSecond⟩

def ofMillis (n : Nat) : Duration := ofNanos (n * 1000000)

def ofSeconds (n : Nat) : Duration := ⟨n, 0⟩

/-- The digits of `part` after the point when `width` places make one whole, without zeros at the
end. -/
def fractionDigits (part width : Nat) : List Char :=
  let ds := Nat.toDigits 10 part
  let padded := List.replicate (width - ds.length) '0' ++ ds
  (padded.reverse.dropWhile (· = '0')).reverse

def decimalText (whole part width : Nat) (unit : String) : String :=
  let fraction := if part = 0 then [] else '.' :: fractionDigits part width
  toString whole ++ String.ofList fraction ++ unit

def text (d : Duration) : String :=
  if 0 < d.seconds then decimalText d.seconds d.nanos 9 "s"
  else if 1000000 ≤ d.nanos then decimalText (d.nanos / 1000000) (d.nanos % 1000000) 6 "ms"
  else if 1000 ≤ d.nanos then decimalText (d.nanos / 1000) (d.nanos % 1000) 3 "µs"
  else decimalText d.nanos 0 0 "ns"

end Duration

end PodPlacement
