import PodPlacement.Cluster.HostPort
import PodPlacement.Object.Node
import PodPlacement.Resource.Request
import PodPlacement.WorkloadKey

/-!
A node together with the pods placed on it, and what follows for the room that is left.
-/

namespace PodPlacement

/-- An image reference with its tag spelled out, so that `nginx` and `nginx:latest` are one. -/
def normalizeImage (image : String) : String :=
  let cs := image.toList
  let last := (cs.splitOn '/').getLast?.getD cs
  if cs.contains '@' || last.contains ':' then image else image ++ ":latest"

structure NodeInfo where
  node : Node
  pods : List Pod
deriving Inhabited

namespace NodeInfo

variable (n : NodeInfo)

def name : String := n.node.name

def requested : Amounts := (n.pods.map Pod.request).foldl (· + ·) .zero

def nonZeroRequested : Amounts := (n.pods.map Pod.nonZeroRequest).foldl (· + ·) .zero

def allocatable : Amounts := .ofList n.node.allocatable

def capacity : Amounts := .ofList n.node.capacity

/-- The amounts that the node's conditions hold back for pods that evict others; a condition whose
reason cannot be read holds nothing. -/
def reservations : List Amounts :=
  n.node.preemptionConditions.filterMap fun c ↦ (Amounts.ofReservation (c.reason.getD "")).toOption

def reserved : Amounts := n.reservations.foldl (· + ·) .zero

def isReservedVictim (key : WorkloadKey) : Bool :=
  (n.node.preemptionConditions.filterMap (·.message)).contains key.text

/-- What the pods leave of the node, whether or not it is held back. -/
def headroom : Amounts := n.allocatable - n.requested

def free : Amounts := n.headroom - n.reserved

def usedPorts : List HostPort := n.pods.flatMap Pod.hostPorts

def images : Table Int :=
  n.node.images.foldl (fun t image ↦
    (image.names.getD []).foldl (fun t name ↦
      t.insert (normalizeImage name) (image.size.getD 0)) t) ∅

def imageSize? (image : String) : Option Int := n.images.get? (normalizeImage image)

end NodeInfo

end PodPlacement
