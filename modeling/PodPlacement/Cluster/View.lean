import PodPlacement.Cluster.Snapshot
import PodPlacement.WorkloadKey

/-!
The cluster as nodes and pods by name, and the snapshot that follows from it.
-/

namespace PodPlacement

def Pod.isFinished (p : Pod) : Bool := p.phase == "Succeeded" || p.phase == "Failed"

structure ClusterView where
  nodes : Table Node := ∅
  pods : Table Pod := ∅
deriving Inhabited

namespace ClusterView

def podsOn (v : ClusterView) (node : String) : List Pod :=
  v.pods.values.filter fun p ↦ p.nodeName? == some node && !p.isFinished

def snapshot (v : ClusterView) : Snapshot :=
  .ofNodes (v.nodes.values.map fun node ↦ { node, pods := v.podsOn node.name })

end ClusterView

end PodPlacement
