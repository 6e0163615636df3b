import PodPlacement.Object.Metadata
import PodPlacement.Object.Schema.Node

/-!
Nodes: what repels pods from them, what they offer, what state they report, and which images they
hold.
-/

namespace PodPlacement

structure Taint where
  key : String
  value : Option String := none
  effect : String
  other : List (String × Json) := []
deriving Inhabited

structure NodeSpec where
  taints : Option (List Taint) := none
  unschedulable : Option Bool := none
  other : List (String × Json) := []
deriving Inhabited

structure NodeCondition where
  type : String
  status : String
  reason : Option String := none
  message : Option String := none
  changed : Option Timestamp := none
  other : List (String × Json) := []
deriving Inhabited

structure NodeImage where
  names : Option (List String) := none
  size : Option Int := none
deriving DecidableEq, Repr, Inhabited

abbrev ResourceList := Table String

structure NodeStatus where
  allocatable : Option ResourceList := none
  capacity : Option ResourceList := none
  conditions : Option (List NodeCondition) := none
  images : Option (List NodeImage) := none
  other : List (String × Json) := []
deriving Inhabited

structure Node where
  metadata : Metadata := {}
  spec : Option NodeSpec := none
  status : Option NodeStatus := none
deriving Inhabited

namespace Taint

def ofNormal (j : Json) : Taint where
  key := j.textAt "key"
  value := j.textAt? "value"
  effect := j.textAt "effect"
  other := j.others ["key", "value", "effect"]

def toJson (t : Taint) : Json :=
  (Json.present [("key", some (.str t.key)), ("value", t.value.map .str),
    ("effect", some (.str t.effect))]).extend t.other

def ofJson? (j : Json) : Option Taint := (Schema.taint.normalize j).map ofNormal

end Taint

namespace NodeSpec

def ofNormal (j : Json) : NodeSpec where
  taints := j.listAt? "taints" Taint.ofNormal
  unschedulable := j.flagAt? "unschedulable"
  other := j.others ["taints", "unschedulable"]

def toJson (s : NodeSpec) : Json :=
  (Json.present [("taints", s.taints.map (Json.ofList Taint.toJson)),
    ("unschedulable", s.unschedulable.map .bool)]).extend s.other

end NodeSpec

namespace NodeCondition

def ofNormal (j : Json) : NodeCondition where
  type := j.textAt "type"
  status := j.textAt "status"
  reason := j.textAt? "reason"
  message := j.textAt? "message"
  changed := j.timeAt? "lastTransitionTime"
  other := j.others ["type", "status", "reason", "message", "lastTransitionTime"]

def toJson (c : NodeCondition) : Json :=
  (Json.present [("type", some (.str c.type)), ("status", some (.str c.status)),
    ("reason", c.reason.map .str), ("message", c.message.map .str),
    ("lastTransitionTime", c.changed.map (Json.ofTime 0))]).extend c.other

end NodeCondition

namespace NodeImage

def ofNormal (j : Json) : NodeImage where
  names := j.listAt? "names" Json.itemText
  size := j.intAt? "sizeBytes"

def toJson (i : NodeImage) : Json :=
  Json.present [("names", i.names.map Json.ofTexts), ("sizeBytes", i.size.map .int)]

end NodeImage

namespace NodeStatus

def ofNormal (j : Json) : NodeStatus where
  allocatable := j.tableAt? "allocatable"
  capacity := j.tableAt? "capacity"
  conditions := j.listAt? "conditions" NodeCondition.ofNormal
  images := j.listAt? "images" NodeImage.ofNormal
  other := j.others ["allocatable", "capacity", "conditions", "images"]

def toJson (s : NodeStatus) : Json :=
  (Json.present [("allocatable", s.allocatable.map Json.ofTable),
    ("capacity", s.capacity.map Json.ofTable),
    ("conditions", s.conditions.map (Json.ofList NodeCondition.toJson)),
    ("images", s.images.map (Json.ofList NodeImage.toJson))]).extend s.other

end NodeStatus

namespace Node

def ofNormal (j : Json) : Node where
  metadata := Metadata.ofNormal (j.member "metadata")
  spec := j.recordAt? "spec" NodeSpec.ofNormal
  status := j.recordAt? "status" NodeStatus.ofNormal

def ofJson? (j : Json) : Option Node :=
  if Schema.namesKind "Node" j then (Schema.node.normalize j).map ofNormal else none

def toJson (n : Node) : Json :=
  Json.present [("apiVersion", some (.str "v1")), ("kind", some (.str "Node")),
    ("metadata", some n.metadata.toJson), ("spec", n.spec.map NodeSpec.toJson),
    ("status", n.status.map NodeStatus.toJson)]

def name (n : Node) : String := n.metadata.name.getD ""

def labels (n : Node) : Table String := n.metadata.labels.getD ∅

def taints (n : Node) : List Taint := (n.spec.bind (·.taints)).getD []

def unschedulable (n : Node) : Bool := (n.spec.bind (·.unschedulable)).getD false

def allocatable (n : Node) : ResourceList := (n.status.bind (·.allocatable)).getD ∅

def capacity (n : Node) : ResourceList := (n.status.bind (·.capacity)).getD ∅

def conditions (n : Node) : List NodeCondition := (n.status.bind (·.conditions)).getD []

def images (n : Node) : List NodeImage := (n.status.bind (·.images)).getD []

def preemptionType : String := "Preemption"

def preemptionConditions (n : Node) : List NodeCondition :=
  n.conditions.filter (·.type == preemptionType)

end Node

end PodPlacement
