import PodPlacement.Decimal.Layout
import PodPlacement.Json.Parser

/-!
Settings as plain data, in the order in which they are written out.
-/

namespace PodPlacement

inductive ConfigValue
  | absent
  | flag (b : Bool)
  | whole (n : Int)
  | number (x : Float)
  | text (s : String)
  | list (items : List ConfigValue)
  | record (fields : List (String × ConfigValue))
deriving Repr, Inhabited

namespace ConfigValue

def ofNat (n : Nat) : ConfigValue := whole n

def ofOption {α : Type} (f : α → ConfigValue) : Option α → ConfigValue
  | some a => f a
  | none => absent

/-- Numbers in listings: without an exponent from a ten-thousandth on. -/
def numberLayout : DecimalLayout := ⟨-4, 16, "inf", "NaN"⟩

/-- Numbers in JSON text: without an exponent from a hundred-thousandth on. -/
def jsonLayout : DecimalLayout := ⟨-5, 16, "null", "null"⟩

def reread? (x : Float) : Option Float :=
  if x.isFinite then (Json.parse? (jsonLayout.text x)).bind Json.float? else none

mutual

def toJson : ConfigValue → Json
  | absent => .null
  | flag b => .bool b
  | whole n => .int n
  | number x => Json.ofText? ((reread? x).map numberLayout.text)
  | text s => .str s
  | list items => .arr (listToJson items)
  | record fields => .obj (fieldsToJson fields)

def listToJson : List ConfigValue → List Json
  | [] => []
  | v :: vs => toJson v :: listToJson vs

def fieldsToJson : List (String × ConfigValue) → List (String × Json)
  | [] => []
  | (name, v) :: fs => (name, toJson v) :: fieldsToJson fs

end

end ConfigValue

end PodPlacement
