import PodPlacement.Json.Basic
import PodPlacement.Decimal.Numeral

/-!
Reading JSON text by its strict grammar: no text after the value, no raw control characters in
strings, no leading zeros. Every step returns what it leaves unread.
-/

namespace PodPlacement.Json

open Text

def skipBlanks : List Char → List Char
  | c :: cs => if c = ' ' ∨ c = '\n' ∨ c = '\r' ∨ c = '\t' then skipBlanks cs else c :: cs
  | [] => []

/-! ### Strings -/

def hexValue? (c : Char) : Option Nat :=
  if c.isDigit then some (digitValue c)
  else if 'a' ≤ c ∧ c ≤ 'f' then some (c.toNat - 'a'.toNat + 10)
  else if 'A' ≤ c ∧ c ≤ 'F' then some (c.toNat - 'A'.toNat + 10)
  else none

def hexQuad? (a b c d : Char) : Option Nat := do
  let a ← hexValue? a
  let b ← hexValue? b
  let c ← hexValue? c
  let d ← hexValue? d
  return ((a * 16 + b) * 16 + c) * 16 + d

def simpleEscape? : Char → Option Char
  | '"' => some '"'
  | '\\' => some '\\'
  | '/' => some '/'
  | 'b' => some '\x08'
  | 'f' => some '\x0c'
  | 'n' => some '\n'
  | 'r' => some '\r'
  | 't' => some '\t'
  | _ => none

/-- What stands between quotes, as the code units that its escapes give: a character, or half of a
surrogate pair. -/
inductive Unit16
  | char (c : Char)
  | high (n : Nat)
  | low (n : Nat)
deriving DecidableEq, Repr

def unit16 (n : Nat) : Unit16 :=
  if 0xd800 ≤ n ∧ n < 0xdc00 then .high (n - 0xd800)
  else if 0xdc00 ≤ n ∧ n < 0xe000 then .low (n - 0xdc00)
  else .char (Char.ofNat n)

def readUnits : List Char → Option (List Unit16 × List Char)
  | [] => none
  | '"' :: cs => some ([], cs)
  | '\\' :: 'u' :: a :: b :: c :: d :: cs => do
    let n ← hexQuad? a b c d
    let (us, rest) ← readUnits cs
    return (unit16 n :: us, rest)
  | '\\' :: c :: cs => do
    let e ← simpleEscape? c
    let (us, rest) ← readUnits cs
    return (.char e :: us, rest)
  | c :: cs =>
    if c.toNat < 0x20 ∨ c = '\\' then none
    else do
      let (us, rest) ← readUnits cs
      return (.char c :: us, rest)

def joinUnits : List Unit16 → Option (List Char)
  | [] => some []
  | .char c :: us => (joinUnits us).map (c :: ·)
  | .high h :: .low l :: us =>
    (joinUnits us).map (Char.ofNat (0x10000 + h * 0x400 + l) :: ·)
  | .high _ :: _ => none
  | .low _ :: _ => none

/-- The rest of a string after its opening quote: its text, if it has one, and what follows. -/
def readString (cs : List Char) : Option (Option String × List Char) := do
  let (us, rest) ← readUnits cs
  return ((joinUnits us).map String.ofList, rest)

/-! ### Numbers -/

/-- Appends digits to a significand while it stays below 2 ^ 64; the second part is how many of
them found no more room. -/
def fillSignificand : Nat → List Char → Nat × Nat
  | n, [] => (n, 0)
  | n, c :: cs =>
    let m := n * 10 + digitValue c
    if m < 0x10000000000000000 then fillSignificand m cs else (n, (c :: cs).length)

def makeNumber (negative : Bool) (whole fraction : List Char) (exponent : Option Int) : Json :=
  let (n, lost) := fillSignificand 0 whole
  if fraction.isEmpty ∧ exponent.isNone ∧ lost = 0 ∧
      (negative → 0 < n ∧ n ≤ 0x8000000000000000) then
    .int (if negative then -n else n)
  else
    let (m, left) := fillSignificand n fraction
    .real ⟨negative, m, lost - (fraction.length - left : Nat) + exponent.getD 0⟩

def readDigits1 (cs : List Char) : Option (List Char × List Char) :=
  let ds := cs.takeWhile Char.isDigit
  if ds.isEmpty then none else some (ds, cs.dropWhile Char.isDigit)

def readWhole (cs : List Char) : Option (List Char × List Char) := do
  let (ds, rest) ← readDigits1 cs
  if ds.head? = some '0' ∧ 1 < ds.length then none else return (ds, rest)

def readFraction : List Char → Option (List Char × List Char)
  | '.' :: cs => readDigits1 cs
  | cs => some ([], cs)

def readExponent : List Char → Option (Option Int × List Char)
  | c :: cs =>
    if c = 'e' ∨ c = 'E' then do
      let (negative, cs) := match cs with
        | '+' :: r => (false, r)
        | '-' :: r => (true, r)
        | r => (false, r)
      let (ds, rest) ← readDigits1 cs
      let e : Int := Numeral.digitsValue ds
      return (some (if negative then -e else e), rest)
    else some (none, c :: cs)
  | [] => some (none, [])

def readNumber (cs : List Char) : Option (Json × List Char) := do
  let (negative, cs) := match cs with
    | '-' :: r => (true, r)
    | r => (false, r)
  let (whole, cs) ← readWhole cs
  let (fraction, cs) ← readFraction cs
  let (exponent, cs) ← readExponent cs
  return (makeNumber negative whole fraction exponent, cs)

/-! ### Values -/

def stripWord : List Char → List Char → Option (List Char)
  | [], cs => some cs
  | w :: ws, c :: cs => if w = c then stripWord ws cs else none
  | _ :: _, [] => none

def makeObject (members : List (Option String × Json)) : Json :=
  match members.mapM fun m ↦ m.1.map fun k ↦ (k, m.2) with
  | some ms => .obj ms
  | none => .undenoted

mutual

/-- Reads a value; each level of brackets and each item takes one unit of `fuel`. -/
def readValue : Nat → List Char → Option (Json × List Char)
  | 0, _ => none
  | fuel + 1, cs =>
    match skipBlanks cs with
    | [] => none
    | '"' :: r => (readString r).map fun (s, rest) ↦ (s.elim .undenoted .str, rest)
    | '[' :: r =>
      match skipBlanks r with
      | ']' :: rest => some (.arr [], rest)
      | _ => (readItems fuel r).map fun (items, rest) ↦ (.arr items, rest)
    | '\x7b' :: r =>
      match skipBlanks r with
      | '\x7d' :: rest => some (.obj [], rest)
      | _ => (readMembers fuel r).map fun (members, rest) ↦ (makeObject members, rest)
    | c :: r =>
      if c = 'n' then (stripWord "ull".toList r).map (.null, ·)
      else if c = 't' then (stripWord "rue".toList r).map (.bool true, ·)
      else if c = 'f' then (stripWord "alse".toList r).map (.bool false, ·)
      else readNumber (c :: r)

def readItems : Nat → List Char → Option (List Json × List Char)
  | 0, _ => none
  | fuel + 1, cs => do
    let (item, rest) ← readValue fuel cs
    match skipBlanks rest with
    | ',' :: r =>
      let (items, rest) ← readItems fuel r
      return (item :: items, rest)
    | ']' :: r => return ([item], r)
    | _ => none

def readMembers : Nat → List Char → Option (List (Option String × Json) × List Char)
  | 0, _ => none
  | fuel + 1, cs => do
    let .cons '"' r := skipBlanks cs | none
    let (key, rest) ← readString r
    let .cons ':' r := skipBlanks rest | none
    let (value, rest) ← readValue fuel r
    match skipBlanks rest with
    | ',' :: r =>
      let (members, rest) ← readMembers fuel r
      return ((key, value) :: members, rest)
    | '\x7d' :: r => return ([(key, value)], r)
    | _ => none

end

def parse? (s : String) : Option Json :=
  let cs := s.toList
  match readValue (cs.length + 1) cs with
  | some (j, rest) => if skipBlanks rest = [] then some j else none
  | none => none

end PodPlacement.Json
