import PodPlacement.Json.Basic
import PodPlacement.Time.Duration
import PodPlacement.Text.Blank

/-!
Points in time, written as a date, a time of day and an offset from UTC. Reading is lenient about
blanks between the parts; writing gives UTC with a fixed number of decimals.
-/

namespace PodPlacement

/-- Seconds since the start of 1970 in UTC; a leap second counts as extra nanoseconds of the second
before it. -/
structure Timestamp where
  seconds : Int
  nanos : Nat
deriving DecidableEq, Repr, Inhabited

namespace Timestamp

open Text

def epoch : Timestamp := ⟨0, 0⟩

def toNanos (t : Timestamp) : Int := t.seconds * Duration.nanosPerSecond + t.nanos

def add (t : Timestamp) (d : Duration) : Timestamp :=
  let n := t.toNanos + d.toNanos
  ⟨n.fdiv Duration.nanosPerSecond, (n.fmod Duration.nanosPerSecond).toNat⟩

/-- The time from `earlier` to `later`, zero when they are the other way round. -/
def elapsed (earlier later : Timestamp) : Duration :=
  Duration.ofNanos (later.toNanos - earlier.toNanos).toNat

/-! ### Dates -/

def isLeapYear (y : Int) : Bool := y % 4 = 0 ∧ (y % 100 ≠ 0 ∨ y % 400 = 0)

def daysInMonth (y : Int) (m : Nat) : Nat :=
  match m with
  | 2 => if isLeapYear y then 29 else 28
  | 4 | 6 | 9 | 11 => 30
  | _ => 31

/-- Days from the start of 1970, counting years from March so that a leap day ends its year. -/
def daysFromDate (y : Int) (m d : Nat) : Int :=
  let y := if m ≤ 2 then y - 1 else y
  let era := y.fdiv 400
  let yearOfEra := y - era * 400
  let month : Int := (m + 9) % 12
  let dayOfYear := (153 * month + 2) / 5 + d - 1
  let dayOfEra := yearOfEra * 365 + yearOfEra / 4 - yearOfEra / 100 + dayOfYear
  era * 146097 + dayOfEra - 719468

def dateFromDays (z : Int) : Int × Nat × Nat :=
  let z := z + 719468
  let era := z.fdiv 146097
  let dayOfEra := z - era * 146097
  let yearOfEra := (dayOfEra - dayOfEra / 1460 + dayOfEra / 36524 - dayOfEra / 146096) / 365
  let dayOfYear := dayOfEra - (365 * yearOfEra + yearOfEra / 4 - yearOfEra / 100)
  let month := (5 * dayOfYear + 2) / 153
  let d := dayOfYear - (153 * month + 2) / 5 + 1
  let m := if month < 10 then month + 3 else month - 9
  let y := yearOfEra + era * 400
  (if m ≤ 2 then y + 1 else y, m.toNat, d.toNat)

/-! ### Reading -/

def skip (cs : List Char) : List Char := trimLeft cs

def readTwo (cs : List Char) : Option (Nat × List Char) :=
  match cs with
  | a :: b :: r =>
    if a.isDigit then
      if b.isDigit then some (digitValue a * 10 + digitValue b, r) else some (digitValue a, b :: r)
    else none
  | [a] => if a.isDigit then some (digitValue a, []) else none
  | [] => none

def expect (c : Char) : List Char → Option (List Char)
  | d :: cs => if c = d then some cs else none
  | [] => none

def readYear (cs : List Char) : Option (Int × List Char) :=
  let take (limit : Nat) (cs : List Char) : Option (Nat × List Char) :=
    let ds := (cs.takeWhile Char.isDigit).take limit
    if ds.isEmpty then none
    else some (ds.foldl (fun n c ↦ n * 10 + digitValue c) 0, cs.drop ds.length)
  match cs with
  | '+' :: r => (take r.length r).map fun (n, r) ↦ ((n : Int), r)
  | '-' :: r => (take r.length r).map fun (n, r) ↦ (-(n : Int), r)
  | r => (take 4 r).map fun (n, r) ↦ ((n : Int), r)

def readFraction : List Char → Option (Nat × List Char)
  | '.' :: r =>
    let ds := r.takeWhile Char.isDigit
    if ds.isEmpty then none
    else
      let kept := ds.take 9
      let n := kept.foldl (fun n c ↦ n * 10 + digitValue c) 0
      some (n * Nat.pow 10 (9 - kept.length), r.dropWhile Char.isDigit)
  | r => some (0, r)

def readOffset (cs : List Char) : Option (Int × List Char) :=
  match cs with
  | 'Z' :: r | 'z' :: r => some (0, r)
  | c :: a :: b :: r =>
    if [c, a, b].map Char.toLower == ['u', 't', 'c'] then some (0, r)
    else if (c = '+' ∨ c = '-' ∨ c = '\u2212') ∧ a.isDigit ∧ b.isDigit then
      let hours : Int := digitValue a * 10 + digitValue b
      match r.dropWhile (fun c ↦ c = ':' || isBlank c) with
      | m :: n :: r =>
        if m.isDigit ∧ n.isDigit ∧ digitValue m < 6 then
          let s := hours * 3600 + (digitValue m * 10 + digitValue n : Nat) * 60
          some (if c = '+' then s else -s, r)
        else none
      | _ => none
    else none
  | _ => none

/-- The years that a date may have, both where it is written and in UTC. -/
def firstYear : Int := -262143

def lastYear : Int := 262142

def isInRange (t : Timestamp) : Bool :=
  daysFromDate firstYear 1 1 * 86400 ≤ t.seconds &&
    t.seconds < daysFromDate (lastYear + 1) 1 1 * 86400

def parse? (s : String) : Option Timestamp := do
  let (year, cs) ← readYear (skip s.toList)
  let (month, cs) ← readTwo (skip (← expect '-' (skip cs)))
  let (day, cs) ← readTwo (skip (← expect '-' (skip cs)))
  let cs ← match cs with
    | 'T' :: r | 't' :: r | ' ' :: r => some r
    | _ => none
  let (hour, cs) ← readTwo (skip cs)
  let (minute, cs) ← readTwo (skip (← expect ':' (skip cs)))
  let (second, cs) ← readTwo (skip (← expect ':' (skip cs)))
  let (nanos, cs) ← readFraction cs
  let (offset, cs) ← readOffset (skip cs)
  if skip cs ≠ [] then none
  else if month < 1 ∨ 12 < month ∨ day < 1 ∨ daysInMonth year month < day then none
  else if 23 < hour ∨ 59 < minute ∨ 60 < second ∨ 86400 ≤ offset.natAbs then none
  else if year < firstYear ∨ lastYear < year then none
  else
    let (second, nanos) := if second = 60 then (59, nanos + Duration.nanosPerSecond)
      else (second, nanos)
    let clock : Int := (hour * 60 + minute) * 60 + second
    let t : Timestamp := ⟨daysFromDate year month day * 86400 + clock - offset, nanos⟩
    if t.isInRange then some t else none

/-! ### Writing -/

def pad (width n : Nat) : String :=
  let ds := Nat.toDigits 10 n
  String.ofList (List.replicate (width - ds.length) '0' ++ ds)

def yearText (y : Int) : String :=
  if 0 ≤ y ∧ y ≤ 9999 then pad 4 y.toNat
  else if y < 0 then "-" ++ pad 4 y.natAbs
  else "+" ++ pad 4 y.toNat

/-- UTC with `places` decimals of a second, the rest cut off. -/
def text (t : Timestamp) (places : Nat) : String :=
  let (seconds, nanos) := (t.seconds, t.nanos)
  let leap := nanos / Duration.nanosPerSecond
  let (y, m, d) := dateFromDays (seconds.fdiv 86400)
  let clock := (seconds.fmod 86400).toNat
  let fraction :=
    if places = 0 then ""
    else "." ++ pad places (nanos % Duration.nanosPerSecond / Nat.pow 10 (9 - places))
  yearText y ++ "-" ++ pad 2 m ++ "-" ++ pad 2 d ++ "T" ++ pad 2 (clock / 3600) ++ ":" ++
    pad 2 (clock / 60 % 60) ++ ":" ++ pad 2 (clock % 60 + leap) ++ fraction ++ "Z"

end Timestamp

end PodPlacement
