import PodPlacement.Object.Fields
import PodPlacement.Object.Schema.Meta

/-!
What names a cluster object and what is attached to it.
-/

namespace PodPlacement

/-- `other` holds the members that no part of scheduling looks at; they are kept for writing the
object back. -/
structure Metadata where
  name : Option String := none
  space : Option String := none
  uid : Option String := none
  version : Option String := none
  generateName : Option String := none
  created : Option Timestamp := none
  labels : Option (Table String) := none
  annotations : Option (Table String) := none
  other : List (String × Json) := []
deriving Inhabited

namespace Metadata

def knownFields : List String :=
  ["name", "namespace", "uid", "resourceVersion", "generateName", "creationTimestamp", "labels",
    "annotations"]

def ofNormal (j : Json) : Metadata where
  name := j.textAt? "name"
  space := j.textAt? "namespace"
  uid := j.textAt? "uid"
  version := j.textAt? "resourceVersion"
  generateName := j.textAt? "generateName"
  created := j.timeAt? "creationTimestamp"
  labels := j.tableAt? "labels"
  annotations := j.tableAt? "annotations"
  other := j.others knownFields

def toJson (m : Metadata) : Json :=
  (Json.present
    [("name", m.name.map .str), ("namespace", m.space.map .str), ("uid", m.uid.map .str),
      ("resourceVersion", m.version.map .str), ("generateName", m.generateName.map .str),
      ("creationTimestamp", m.created.map (Json.ofTime 0)),
      ("labels", m.labels.map Json.ofTable),
      ("annotations", m.annotations.map Json.ofTable)]).extend m.other

end Metadata

structure Requirement where
  key : String
  operator : String
  values : Option (List String) := none
deriving DecidableEq, Repr, Inhabited

namespace Requirement

def ofNormal (j : Json) : Requirement where
  key := j.textAt "key"
  operator := j.textAt "operator"
  values := j.listAt? "values" Json.itemText

def toJson (r : Requirement) : Json :=
  Json.present [("key", some (.str r.key)), ("operator", some (.str r.operator)),
    ("values", r.values.map Json.ofTexts)]

end Requirement

structure LabelSelector where
  matchLabels : Option (Table String) := none
  matchExpressions : Option (List Requirement) := none
deriving DecidableEq, Repr, Inhabited

namespace LabelSelector

def ofNormal (j : Json) : LabelSelector where
  matchLabels := j.tableAt? "matchLabels"
  matchExpressions := j.listAt? "matchExpressions" Requirement.ofNormal

def toJson (s : LabelSelector) : Json :=
  Json.present [("matchLabels", s.matchLabels.map Json.ofTable),
    ("matchExpressions", s.matchExpressions.map (Json.ofList Requirement.toJson))]

def ofJson? (j : Json) : Option LabelSelector :=
  (Schema.labelSelector.normalize j).map ofNormal

end LabelSelector

end PodPlacement
