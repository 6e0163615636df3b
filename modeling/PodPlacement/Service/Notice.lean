import PodPlacement.Object.Event
import PodPlacement.Object.Pod

/-!
Events about pods.
-/

namespace PodPlacement

namespace Event

def schedulerComponent : String := "corral-scheduler"

def warningType : String := "Warning"

def fatalType : String := "Fatal"

/-- An event about the pod, seen once, at the time `now`. An empty host is no host. -/
def aboutPod (now : Timestamp) (p : Pod) (type reason message host : String) : Event :=
  let name := p.metadata.name.getD ""
  { metadata := { generateName := some (name ++ "-"), space := some p.space }
    involved :=
      { kind := some "Pod", name := some name, space := some p.space, uid := p.metadata.uid }
    reason := some reason
    message := some message
    type := some type
    count := some 1
    component := some schedulerComponent
    host := if host.isEmpty then none else some host
    first := some now
    last := some now
    sourced := true }

end Event

end PodPlacement
