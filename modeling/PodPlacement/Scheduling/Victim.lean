import PodPlacement.Cluster.NodeInfo

/-!
Which pod on a node has to go so that another one fits.
-/

namespace PodPlacement

/-- Whether the pod may be evicted for `preemptor`: it runs in the same namespace, counts for less,
is not yet spoken for, and either holds nothing or leaves enough room. -/
def NodeInfo.isEligibleVictim (n : NodeInfo) (preemptor p : Pod) : Bool :=
  match WorkloadKey.ofPod p with
  | .error _ => false
  | .ok key =>
    !n.isReservedVictim key && key.space == preemptor.space && p.phase == Pod.runningPhase &&
      p.priority < preemptor.priority &&
      (p.request.isZero || (p.request + n.free).covers preemptor.request)

def NodeInfo.selectVictim (n : NodeInfo) (preemptor : Pod) : Option Pod :=
  (n.pods.mergeSort fun a b ↦ a.priority ≤ b.priority).find? (n.isEligibleVictim preemptor)

end PodPlacement
