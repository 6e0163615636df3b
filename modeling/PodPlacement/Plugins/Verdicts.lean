import PodPlacement.Framework.Plugin
import PodPlacement.Matching.Toleration

/-!
Filters that look at one property of the node: its readiness, its name, a cordon, and the volumes
that can be had there.
-/

namespace PodPlacement.Plugins

namespace NodeStatus

def name : String := "NodeStatus"

def isReady (n : Node) : Bool := n.conditions.any fun c ↦ c.type == "Ready" && c.status == "True"

def filter : Filter := fun _ _ _ n ↦
  .check (isReady n.node) (.unresolvable "node(s) were not ready")

def plugin : Plugin := { name, filter := some filter }

end NodeStatus

namespace NodeName

def name : String := "NodeName"

def allows (p : Pod) (n : NodeInfo) : Bool :=
  p.nodeName?.all fun wanted ↦ wanted.isEmpty || wanted == n.name

def filter : Filter := fun _ _ p n ↦
  .check (allows p n) (.unresolvable "node(s) didn't match the requested node name")

def plugin : Plugin := { name, filter := some filter }

end NodeName

namespace NodeUnschedulable

def name : String := "NodeUnschedulable"

def cordonTaint : Taint := { key := "node.kubernetes.io/unschedulable", effect := Taint.noSchedule }

def filter : Filter := fun _ _ p n ↦
  .check (!n.node.unschedulable || toleratedBy p.tolerations cordonTaint)
    (.unresolvable "node(s) were unschedulable")

def plugin : Plugin := { name, filter := some filter }

end NodeUnschedulable

namespace VolumeBinding

def name : String := "VolumeBinding"

def hasClaims (p : Pod) : Bool := p.volumes.any (·.claim.isSome)

def filter : Filter := fun env _ p n ↦
  if hasClaims p then
    match env.binder p n.node with
    | .ok [] => .success
    | .ok reasons => ⟨.unresolvable, reasons⟩
    | .error e => .error e.message
  else .success

def plugin : Plugin := { name, filter := some filter }

end VolumeBinding

end PodPlacement.Plugins
