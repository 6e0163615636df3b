import PodPlacement.Json.Basic
import PodPlacement.Table

/-!
Objects without repeated members.
-/

namespace PodPlacement.Json

mutual

def distinct : Json → Json
  | arr items => arr (distinctAll items)
  | obj members => obj (Table.ofList (distinctMembers members)).entries
  | j => j

def distinctAll : List Json → List Json
  | [] => []
  | j :: js => distinct j :: distinctAll js

def distinctMembers : List (String × Json) → List (String × Json)
  | [] => []
  | (k, j) :: ms => (k, distinct j) :: distinctMembers ms

end

end PodPlacement.Json
