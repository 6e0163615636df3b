import PodPlacement.Object.Metadata
import PodPlacement.Object.Schema.Pod

/-!
Pods: what they run and ask for, where they may or would rather run, and how far they have come.
-/

namespace PodPlacement

structure ContainerPort where
  containerPort : Int := 0
  hostPort : Option Int := none
  hostIp : Option String := none
  protocol : Option String := none
  other : List (String × Json) := []
deriving Inhabited

structure ContainerNeeds where
  requests : Option (Table String) := none
  other : List (String × Json) := []
deriving Inhabited

structure Container where
  name : String := ""
  image : Option String := none
  ports : Option (List ContainerPort) := none
  resources : Option ContainerNeeds := none
  other : List (String × Json) := []
deriving Inhabited

structure Toleration where
  key : Option String := none
  operator : Option String := none
  value : Option String := none
  effect : Option String := none
  seconds : Option Int := none
deriving DecidableEq, Repr, Inhabited

structure NodeSelectorTerm where
  matchExpressions : Option (List Requirement) := none
  matchFields : Option (List Requirement) := none
deriving DecidableEq, Repr, Inhabited

structure PreferredNodeTerm where
  weight : Int
  preference : NodeSelectorTerm
deriving DecidableEq, Repr, Inhabited

structure NodeAffinity where
  required : Option (List NodeSelectorTerm) := none
  preferred : Option (List PreferredNodeTerm) := none
deriving DecidableEq, Repr, Inhabited

structure PodAffinityTerm where
  labelSelector : Option LabelSelector := none
  namespaces : Option (List String) := none
  namespaceSelector : Option LabelSelector := none
  topologyKey : String := ""
  other : List (String × Json) := []
deriving Inhabited

structure WeightedPodAffinityTerm where
  weight : Int
  term : PodAffinityTerm
deriving Inhabited

structure PodAffinity where
  required : Option (List PodAffinityTerm) := none
  preferred : Option (List WeightedPodAffinityTerm) := none
deriving Inhabited

structure Affinity where
  node : Option NodeAffinity := none
  pod : Option PodAffinity := none
  podAnti : Option PodAffinity := none
deriving Inhabited

/-- `claim` is what the volume says about a persistent volume claim, if it is backed by one. -/
structure Volume where
  name : String := ""
  claim : Option Json := none
  other : List (String × Json) := []
deriving Inhabited

structure PodSpec where
  containers : List Container := []
  initContainers : Option (List Container) := none
  overhead : Option (Table String) := none
  priority : Option Int := none
  preemptionPolicy : Option String := none
  nodeName : Option String := none
  nodeSelector : Option (Table String) := none
  affinity : Option Affinity := none
  tolerations : Option (List Toleration) := none
  volumes : Option (List Volume) := none
  schedulerName : Option String := none
  other : List (String × Json) := []
deriving Inhabited

structure PodStatus where
  phase : Option String := none
  other : List (String × Json) := []
deriving Inhabited

structure Pod where
  metadata : Metadata := {}
  spec : Option PodSpec := none
  status : Option PodStatus := none
deriving Inhabited

namespace ContainerPort

def ofNormal (j : Json) : ContainerPort where
  containerPort := j.intAt "containerPort"
  hostPort := j.intAt? "hostPort"
  hostIp := j.textAt? "hostIP"
  protocol := j.textAt? "protocol"
  other := j.others ["containerPort", "hostPort", "hostIP", "protocol"]

def toJson (p : ContainerPort) : Json :=
  (Json.present [("containerPort", some (.int p.containerPort)),
    ("hostPort", p.hostPort.map .int), ("hostIP", p.hostIp.map .str),
    ("protocol", p.protocol.map .str)]).extend p.other

end ContainerPort

namespace ContainerNeeds

def ofNormal (j : Json) : ContainerNeeds where
  requests := j.tableAt? "requests"
  other := j.others ["requests"]

def toJson (n : ContainerNeeds) : Json :=
  (Json.present [("requests", n.requests.map Json.ofTable)]).extend n.other

end ContainerNeeds

namespace Container

def ofNormal (j : Json) : Container where
  name := j.textAt "name"
  image := j.textAt? "image"
  ports := j.listAt? "ports" ContainerPort.ofNormal
  resources := j.recordAt? "resources" ContainerNeeds.ofNormal
  other := j.others ["name", "image", "ports", "resources"]

def toJson (c : Container) : Json :=
  (Json.present [("name", some (.str c.name)), ("image", c.image.map .str),
    ("ports", c.ports.map (Json.ofList ContainerPort.toJson)),
    ("resources", c.resources.map ContainerNeeds.toJson)]).extend c.other

def requests? (c : Container) : Option (Table String) := c.resources.bind (·.requests)

end Container

namespace Toleration

def ofNormal (j : Json) : Toleration where
  key := j.textAt? "key"
  operator := j.textAt? "operator"
  value := j.textAt? "value"
  effect := j.textAt? "effect"
  seconds := j.intAt? "tolerationSeconds"

def toJson (t : Toleration) : Json :=
  Json.present [("key", t.key.map .str), ("operator", t.operator.map .str),
    ("value", t.value.map .str), ("effect", t.effect.map .str),
    ("tolerationSeconds", t.seconds.map .int)]

def ofJson? (j : Json) : Option Toleration := (Schema.toleration.normalize j).map ofNormal

end Toleration

namespace NodeSelectorTerm

def ofNormal (j : Json) : NodeSelectorTerm where
  matchExpressions := j.listAt? "matchExpressions" Requirement.ofNormal
  matchFields := j.listAt? "matchFields" Requirement.ofNormal

def toJson (t : NodeSelectorTerm) : Json :=
  Json.present [("matchExpressions", t.matchExpressions.map (Json.ofList Requirement.toJson)),
    ("matchFields", t.matchFields.map (Json.ofList Requirement.toJson))]

def ofJson? (j : Json) : Option NodeSelectorTerm :=
  (Schema.nodeSelectorTerm.normalize j).map ofNormal

end NodeSelectorTerm

def requiredField : String := "requiredDuringSchedulingIgnoredDuringExecution"

def preferredField : String := "preferredDuringSchedulingIgnoredDuringExecution"

namespace PreferredNodeTerm

def ofNormal (j : Json) : PreferredNodeTerm where
  weight := j.intAt "weight"
  preference := NodeSelectorTerm.ofNormal (j.member "preference")

def toJson (t : PreferredNodeTerm) : Json :=
  .obj [("weight", .int t.weight), ("preference", t.preference.toJson)]

end PreferredNodeTerm

namespace NodeAffinity

def ofNormal (j : Json) : NodeAffinity where
  required := j.recordAt? requiredField fun s ↦
    (s.listAt? "nodeSelectorTerms" NodeSelectorTerm.ofNormal).getD []
  preferred := j.listAt? preferredField PreferredNodeTerm.ofNormal

def toJson (a : NodeAffinity) : Json :=
  Json.present
    [(requiredField, a.required.map fun ts ↦
        .obj [("nodeSelectorTerms", Json.ofList NodeSelectorTerm.toJson ts)]),
      (preferredField, a.preferred.map (Json.ofList PreferredNodeTerm.toJson))]

end NodeAffinity

namespace PodAffinityTerm

def ofNormal (j : Json) : PodAffinityTerm where
  labelSelector := j.recordAt? "labelSelector" LabelSelector.ofNormal
  namespaces := j.listAt? "namespaces" Json.itemText
  namespaceSelector := j.recordAt? "namespaceSelector" LabelSelector.ofNormal
  topologyKey := j.textAt "topologyKey"
  other := j.others ["labelSelector", "namespaces", "namespaceSelector", "topologyKey"]

def toJson (t : PodAffinityTerm) : Json :=
  (Json.present [("labelSelector", t.labelSelector.map LabelSelector.toJson),
    ("namespaces", t.namespaces.map Json.ofTexts),
    ("namespaceSelector", t.namespaceSelector.map LabelSelector.toJson),
    ("topologyKey", some (.str t.topologyKey))]).extend t.other

end PodAffinityTerm

namespace WeightedPodAffinityTerm

def ofNormal (j : Json) : WeightedPodAffinityTerm where
  weight := j.intAt "weight"
  term := PodAffinityTerm.ofNormal (j.member "podAffinityTerm")

def toJson (t : WeightedPodAffinityTerm) : Json :=
  .obj [("weight", .int t.weight), ("podAffinityTerm", t.term.toJson)]

end WeightedPodAffinityTerm

namespace PodAffinity

def ofNormal (j : Json) : PodAffinity where
  required := j.listAt? requiredField PodAffinityTerm.ofNormal
  preferred := j.listAt? preferredField WeightedPodAffinityTerm.ofNormal

def toJson (a : PodAffinity) : Json :=
  Json.present [(requiredField, a.required.map (Json.ofList PodAffinityTerm.toJson)),
    (preferredField, a.preferred.map (Json.ofList WeightedPodAffinityTerm.toJson))]

end PodAffinity

namespace Affinity

def ofNormal (j : Json) : Affinity where
  node := j.recordAt? "nodeAffinity" NodeAffinity.ofNormal
  pod := j.recordAt? "podAffinity" PodAffinity.ofNormal
  podAnti := j.recordAt? "podAntiAffinity" PodAffinity.ofNormal

def toJson (a : Affinity) : Json :=
  Json.present [("nodeAffinity", a.node.map NodeAffinity.toJson),
    ("podAffinity", a.pod.map PodAffinity.toJson),
    ("podAntiAffinity", a.podAnti.map PodAffinity.toJson)]

end Affinity

namespace Volume

def ofNormal (j : Json) : Volume where
  name := j.textAt "name"
  claim := j.recordAt? "persistentVolumeClaim" id
  other := j.others ["name", "persistentVolumeClaim"]

def toJson (v : Volume) : Json :=
  (Json.present [("name", some (.str v.name)), ("persistentVolumeClaim", v.claim)]).extend v.other

end Volume

namespace PodSpec

def knownFields : List String :=
  ["containers", "initContainers", "overhead", "priority", "preemptionPolicy", "nodeName",
    "nodeSelector", "affinity", "tolerations", "volumes", "schedulerName"]

def ofNormal (j : Json) : PodSpec where
  containers := (j.listAt? "containers" Container.ofNormal).getD []
  initContainers := j.listAt? "initContainers" Container.ofNormal
  overhead := j.tableAt? "overhead"
  priority := j.intAt? "priority"
  preemptionPolicy := j.textAt? "preemptionPolicy"
  nodeName := j.textAt? "nodeName"
  nodeSelector := j.tableAt? "nodeSelector"
  affinity := j.recordAt? "affinity" Affinity.ofNormal
  tolerations := j.listAt? "tolerations" Toleration.ofNormal
  volumes := j.listAt? "volumes" Volume.ofNormal
  schedulerName := j.textAt? "schedulerName"
  other := j.others knownFields

def toJson (s : PodSpec) : Json :=
  (Json.present
    [("containers", some (Json.ofList Container.toJson s.containers)),
      ("initContainers", s.initContainers.map (Json.ofList Container.toJson)),
      ("overhead", s.overhead.map Json.ofTable), ("priority", s.priority.map .int),
      ("preemptionPolicy", s.preemptionPolicy.map .str), ("nodeName", s.nodeName.map .str),
      ("nodeSelector", s.nodeSelector.map Json.ofTable),
      ("affinity", s.affinity.map Affinity.toJson),
      ("tolerations", s.tolerations.map (Json.ofList Toleration.toJson)),
      ("volumes", s.volumes.map (Json.ofList Volume.toJson)),
      ("schedulerName", s.schedulerName.map .str)]).extend s.other

end PodSpec

namespace PodStatus

def ofNormal (j : Json) : PodStatus where
  phase := j.textAt? "phase"
  other := j.others ["phase"]

def toJson (s : PodStatus) : Json :=
  (Json.present [("phase", s.phase.map .str)]).extend s.other

end PodStatus

namespace Pod

def ofNormal (j : Json) : Pod where
  metadata := Metadata.ofNormal (j.member "metadata")
  spec := j.recordAt? "spec" PodSpec.ofNormal
  status := j.recordAt? "status" PodStatus.ofNormal

def ofJson? (j : Json) : Option Pod :=
  if Schema.namesKind "Pod" j then (Schema.pod.normalize j).map ofNormal else none

def toJson (p : Pod) : Json :=
  Json.present [("apiVersion", some (.str "v1")), ("kind", some (.str "Pod")),
    ("metadata", some p.metadata.toJson), ("spec", p.spec.map PodSpec.toJson),
    ("status", p.status.map PodStatus.toJson)]

/-! ### What scheduling reads -/

def runningPhase : String := "Running"

def neverPreempt : String := "Never"

def labels (p : Pod) : Table String := p.metadata.labels.getD ∅

def space (p : Pod) : String := p.metadata.space.getD "default"

def containers (p : Pod) : List Container := p.spec.elim [] (·.containers)

def initContainers (p : Pod) : List Container := (p.spec.bind (·.initContainers)).getD []

def overhead (p : Pod) : Table String := (p.spec.bind (·.overhead)).getD ∅

def priority (p : Pod) : Int := (p.spec.bind (·.priority)).getD 0

def canPreempt (p : Pod) : Bool := p.spec.bind (·.preemptionPolicy) != some neverPreempt

def nodeName? (p : Pod) : Option String := p.spec.bind (·.nodeName)

def tolerations (p : Pod) : List Toleration := (p.spec.bind (·.tolerations)).getD []

def nodeSelector (p : Pod) : Table String := (p.spec.bind (·.nodeSelector)).getD ∅

def affinity? (p : Pod) : Option Affinity := p.spec.bind (·.affinity)

def volumes (p : Pod) : List Volume := (p.spec.bind (·.volumes)).getD []

def phase (p : Pod) : String := (p.status.bind (·.phase)).getD ""

end Pod

end PodPlacement
