import PodPlacement.Decimal.Numeral
import PodPlacement.Document

/-!
YAML values. A plain scalar has no type of its own: what its text stands for depends on what is
asked of it.
-/

namespace PodPlacement

inductive Yaml
  /-- Text; a plain one stands without quotes. -/
  | scalar (plain : Bool) (text : String)
  | list (items : List Yaml)
  | record (fields : List (Yaml × Yaml))
deriving Repr, Inhabited

namespace Yaml

def empty : Yaml := scalar true ""

def text? : Yaml → Option String
  | scalar _ s => some s
  | _ => none

def plain? : Yaml → Option String
  | scalar true s => some s
  | _ => none

def isNullWord (s : String) : Bool := ["null", "Null", "NULL", "~"].contains s

def flag? (s : String) : Option Bool :=
  if ["true", "True", "TRUE"].contains s then some true
  else if ["false", "False", "FALSE"].contains s then some false
  else none

/-! ### Numbers -/

def digitIn? (base : Nat) (c : Char) : Option Nat :=
  let value :=
    if c.isDigit then c.toNat - '0'.toNat
    else if 'a' ≤ c ∧ c ≤ 'f' then c.toNat - 'a'.toNat + 10
    else if 'A' ≤ c ∧ c ≤ 'F' then c.toNat - 'A'.toNat + 10
    else base
  if value < base then some value else none

def natural? (base : Nat) (cs : List Char) : Option Nat :=
  if cs.isEmpty then none
  else cs.foldlM (fun n c ↦ (digitIn? base c).map (n * base + ·)) 0

def dropSign : List Char → List Char
  | '+' :: cs => cs
  | '-' :: cs => cs
  | cs => cs

def hasLeadingZero (cs : List Char) : Bool :=
  match dropSign cs with
  | '0' :: c :: rest => (c :: rest).all Char.isDigit
  | _ => false

def magnitude? (cs : List Char) : Option Nat :=
  match cs with
  | '0' :: 'x' :: ds => natural? 16 ds
  | '0' :: 'o' :: ds => natural? 8 ds
  | '0' :: 'b' :: ds => natural? 2 ds
  | ds => natural? 10 ds

def within (range : Text.IntegerRange) (n : Int) : Option Int :=
  if range.contains n then some n else none

/-- The integers that a scalar can stand for: 128 bits with a sign or without one. -/
def integerRange : Text.IntegerRange :=
  ⟨-0x80000000000000000000000000000000, 0xffffffffffffffffffffffffffffffff⟩

def integer? (s : String) : Option Int :=
  if hasLeadingZero s.toList then none
  else
    let value := match s.toList with
      | '-' :: cs => (magnitude? cs).map fun n ↦ -(n : Int)
      | '+' :: cs => (magnitude? cs).map fun n ↦ (n : Int)
      | cs => (magnitude? cs).map fun n ↦ (n : Int)
    value.bind (within integerRange)

def unsigned? (s : String) : Option Nat :=
  match s.toList with
  | '-' :: _ => none
  | _ => (integer? s).map Int.toNat

def finite? (cs : List Char) : Option Float :=
  match Numeral.read cs with
  | .ok (.finite d) => if d.toFloat.isInf then none else some d.toFloat
  | _ => none

def number? (s : String) : Option Float :=
  let infinity : Float := 1.0 / 0.0
  if [".inf", ".Inf", ".INF", "+.inf", "+.Inf", "+.INF"].contains s then some infinity
  else if ["-.inf", "-.Inf", "-.INF"].contains s then some (-infinity)
  else if [".nan", ".NaN", ".NAN"].contains s then some (0.0 / 0.0)
  else
    match s.toList with
    | '+' :: '+' :: _ | '+' :: '-' :: _ => none
    | '+' :: cs => finite? cs
    | cs => finite? cs

/-! ### As a document -/

instance : Document Yaml where
  text? := text?
  flag? y := y.plain?.bind flag?
  natural? range y := ((y.plain?.bind unsigned?).bind fun n ↦ within range n).map Int.toNat
  integer? range y := (y.plain?.bind integer?).bind (within range)
  number? y := y.plain?.bind number?
  isAbsent y := y.plain?.any fun s ↦ s.isEmpty || isNullWord s
  items?
    | list items => some items
    | scalar true "" => some []
    | _ => none
  fields? _
    | record fields => fields.mapM fun (name, y) ↦ (text? name).map (·, y)
    | scalar true "" => some []
    | _ => none

end Yaml

end PodPlacement
