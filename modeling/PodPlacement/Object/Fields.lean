import PodPlacement.Object.Schema

/-!
Taking the members of an object in normal form apart, and putting an object together from the
members that are present.
-/

namespace PodPlacement.Json

def textAt? (j : Json) (name : String) : Option String := (j.member name).text?

def textAt (j : Json) (name : String) : String := (j.textAt? name).getD ""

def flagAt? (j : Json) (name : String) : Option Bool := (j.member name).bool?

def intAt? (j : Json) (name : String) : Option Int :=
  match j.member name with
  | int n => some n
  | _ => none

def intAt (j : Json) (name : String) : Int := (j.intAt? name).getD 0

def timeAt? (j : Json) (name : String) : Option Timestamp :=
  (j.textAt? name).bind Timestamp.parse?

variable {α : Type}

def recordAt? (j : Json) (name : String) (f : Json → α) : Option α :=
  match j.member name with
  | obj members => some (f (obj members))
  | _ => none

def listAt? (j : Json) (name : String) (f : Json → α) : Option (List α) :=
  match j.member name with
  | arr items => some (items.map f)
  | _ => none

def tableOf : Json → Table String
  | obj members => Table.ofList (members.filterMap fun m ↦ m.2.text?.map (m.1, ·))
  | _ => ∅

def tableAt? (j : Json) (name : String) : Option (Table String) := j.recordAt? name tableOf

def itemText (j : Json) : String := j.text?.getD ""

/-! ### Putting together -/

def present (members : List (String × Option Json)) : Json :=
  obj (members.filterMap fun m ↦ m.2.map (m.1, ·))

def extend (j : Json) (more : List (String × Json)) : Json :=
  match j with
  | obj members => obj (members ++ more)
  | j => j

def ofTable (t : Table String) : Json := obj (t.entries.map fun e ↦ (e.1, str e.2))

def ofTexts (xs : List String) : Json := arr (xs.map str)

def ofList (f : α → Json) (xs : List α) : Json := arr (xs.map f)

def ofTime (places : Nat) (t : Timestamp) : Json := str (t.text places)

end PodPlacement.Json
