import PodPlacement.Decimal.Basic
import PodPlacement.Text.Integer

/-!
JSON values. An object keeps its members in the order of the text, repeated keys included: whether
a repetition is allowed, and which member then counts, is for the reader of the object to say.
-/

namespace PodPlacement

inductive Json
  | null
  | bool (b : Bool)
  /-- A number without point or exponent from -2 ^ 63 to 2 ^ 64 - 1. -/
  | int (n : Int)
  | real (d : Decimal)
  | str (s : String)
  | arr (items : List Json)
  | obj (members : List (String × Json))
  /-- Well-formed text that denotes no value, since an escape in it is half of a surrogate pair:
  it can be skipped but not read. -/
  | undenoted
deriving Repr, Inhabited

namespace Json

def ofText? : Option String → Json
  | some s => str s
  | none => null

def ofOption {α : Type} (f : α → Json) : Option α → Json
  | some a => f a
  | none => null

def text? : Json → Option String
  | str s => some s
  | _ => none

def bool? : Json → Option Bool
  | bool b => some b
  | _ => none

def int? (range : Text.IntegerRange) : Json → Option Int
  | int n => if range.contains n then some n else none
  | _ => none

def nat? (range : Text.IntegerRange) (j : Json) : Option Nat := (j.int? range).map Int.toNat

def float? : Json → Option Float
  | int n => some (Float.ofInt n)
  | real d => d.toFloatScaled?
  | _ => none

def list? {α : Type} (f : Json → Option α) : Json → Option (List α)
  | arr items => items.mapM f
  | _ => none

/-- The last member of that name; `null` when there is none or this is no object. -/
def member (j : Json) (name : String) : Json :=
  match j with
  | obj members => (members.reverse.lookup name).getD null
  | _ => null

def isNull : Json → Bool
  | null => true
  | _ => false

/-! ### Values of any shape -/

def maxDepth : Nat := 127

mutual

/-- Whether everything in the value denotes something, and its lists and objects are nested no
deeper than `depth`. -/
def denotes : Nat → Json → Bool
  | _, null | _, bool _ | _, int _ | _, str _ => true
  | _, real d => d.toFloatScaled?.isSome
  | _, undenoted => false
  | depth + 1, arr items => allDenote depth items
  | depth + 1, obj members => membersDenote depth members
  | 0, arr _ | 0, obj _ => false

def allDenote : Nat → List Json → Bool
  | _, [] => true
  | depth, j :: js => denotes depth j && allDenote depth js

def membersDenote : Nat → List (String × Json) → Bool
  | _, [] => true
  | depth, (_, j) :: ms => denotes depth j && membersDenote depth ms

end

end Json

end PodPlacement
