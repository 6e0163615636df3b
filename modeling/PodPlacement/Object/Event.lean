import PodPlacement.Object.Metadata
import PodPlacement.Object.Schema.Node

/-!
Events: short notices about an object, for people to read.
-/

namespace PodPlacement

structure ObjectReference where
  kind : Option String := none
  name : Option String := none
  space : Option String := none
  uid : Option String := none
  other : List (String × Json) := []
deriving Inhabited

structure Event where
  metadata : Metadata := {}
  involved : ObjectReference := {}
  reason : Option String := none
  message : Option String := none
  type : Option String := none
  count : Option Int := none
  component : Option String := none
  host : Option String := none
  first : Option Timestamp := none
  last : Option Timestamp := none
  /-- Whether a source is named at all; its component and host may both be absent. -/
  sourced : Bool := false
  other : List (String × Json) := []
deriving Inhabited

namespace ObjectReference

def ofNormal (j : Json) : ObjectReference where
  kind := j.textAt? "kind"
  name := j.textAt? "name"
  space := j.textAt? "namespace"
  uid := j.textAt? "uid"
  other := j.others ["kind", "name", "namespace", "uid"]

def toJson (r : ObjectReference) : Json :=
  (Json.present [("kind", r.kind.map .str), ("name", r.name.map .str),
    ("namespace", r.space.map .str), ("uid", r.uid.map .str)]).extend r.other

end ObjectReference

namespace Event

def knownFields : List String :=
  ["metadata", "involvedObject", "reason", "message", "type", "count", "source", "firstTimestamp",
    "lastTimestamp"]

def ofNormal (j : Json) : Event where
  metadata := Metadata.ofNormal (j.member "metadata")
  involved := ObjectReference.ofNormal (j.member "involvedObject")
  reason := j.textAt? "reason"
  message := j.textAt? "message"
  type := j.textAt? "type"
  count := j.intAt? "count"
  component := (j.member "source").textAt? "component"
  host := (j.member "source").textAt? "host"
  first := j.timeAt? "firstTimestamp"
  last := j.timeAt? "lastTimestamp"
  sourced := !(j.member "source").isNull
  other := j.others knownFields

def ofJson? (j : Json) : Option Event :=
  if Schema.namesKind "Event" j then (Schema.event.normalize j).map ofNormal else none

def toJson (e : Event) : Json :=
  let source := Json.present [("component", e.component.map .str), ("host", e.host.map .str)]
  (Json.present
    [("apiVersion", some (.str "v1")), ("kind", some (.str "Event")),
      ("metadata", some e.metadata.toJson), ("involvedObject", some e.involved.toJson),
      ("reason", e.reason.map .str), ("message", e.message.map .str), ("type", e.type.map .str),
      ("count", e.count.map .int), ("source", if e.sourced then some source else none),
      ("firstTimestamp", e.first.map (Json.ofTime 0)),
      ("lastTimestamp", e.last.map (Json.ofTime 0))]).extend e.other

end Event

end PodPlacement
