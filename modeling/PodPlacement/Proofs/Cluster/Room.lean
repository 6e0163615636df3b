import PodPlacement.Proofs.Cluster.NodeInfo

/-!
Room on a node. Where nothing is negative, a request is let in exactly if the node has a place for
one more pod and, of every resource that is asked for, enough beside what its pods ask for and what
its reservations hold back. The order of pods and conditions does not matter, and neither a pod nor
a reservation more lets in what was refused.
-/

namespace PodPlacement

def NodeCondition.holding (reason : String) : NodeCondition where
  type := Node.preemptionType
  status := "True"
  reason := some reason

namespace NodeInfo

/-- `m` is `n` with its pods and its conditions in some order. -/
structure Rearranged (n m : NodeInfo) : Prop where
  pods : m.pods.Perm n.pods
  allocatable : m.node.allocatable = n.node.allocatable
  conditions : m.node.conditions.Perm n.node.conditions

/-- `m` is `n` once `p` runs there too. -/
structure Joined (n : NodeInfo) (p : Pod) (m : NodeInfo) : Prop where
  node : m.node = n.node
  pods : m.pods.Perm (p :: n.pods)

/-- `m` is `n` once `c` is reported there too. -/
structure Reported (n : NodeInfo) (c : NodeCondition) (m : NodeInfo) : Prop where
  pods : m.pods = n.pods
  allocatable : m.node.allocatable = n.node.allocatable
  conditions : m.node.conditions.Perm (c :: n.node.conditions)

variable {n m : NodeInfo} {q : Amounts} {p : Pod} {c : NodeCondition}

theorem insufficientResources_congr (hallocatable : m.allocatable = n.allocatable)
    (hlength : m.pods.length = n.pods.length) (hrequested : m.requested = n.requested)
    (hreservations : m.reservations.Perm n.reservations) (q : Amounts) :
    insufficientResources q m = insufficientResources q n := by
  have hreserved : m.reserved = n.reserved := Amounts.foldl_add_perm hreservations _
  have hfree : m.free = n.free := by
    rw [free, free, headroom, headroom, hallocatable, hrequested, hreserved]
  simp only [insufficientResources, hallocatable, hlength, hfree]

theorem Joined.allocatable_eq (h : n.Joined p m) : m.allocatable = n.allocatable := by
  rw [allocatable, allocatable, h.node]

theorem Reported.allocatable_eq (h : n.Reported c m) : m.allocatable = n.allocatable :=
  congrArg Amounts.ofList h.allocatable

theorem Reported.requested_eq (h : n.Reported c m) : m.requested = n.requested := by
  rw [requested, requested, h.pods]

theorem Reported.headroom_eq (h : n.Reported c m) : m.headroom = n.headroom := by
  rw [headroom, headroom, h.allocatable_eq, h.requested_eq]

theorem Reported.reservations_perm (h : n.Reported c m) (hc : c.type = Node.preemptionType) :
    m.reservations.Perm
      ((Amounts.ofReservation (c.reason.getD "")).toOption.toList ++ n.reservations) := by
  have hconditions : m.node.preemptionConditions.Perm (c :: n.node.preemptionConditions) := by
    have hfilter := h.conditions.filter (·.type == Node.preemptionType)
    rwa [List.filter_cons_of_pos (by simp [hc])] at hfilter
  refine (hconditions.filterMap _).trans (.of_eq ?_)
  rw [List.filterMap_cons]
  cases Amounts.ofReservation (c.reason.getD "") <;> rfl

/-- A condition that cannot be read holds nothing back. -/
theorem Reported.unreadable (h : n.Reported c m) (hc : c.type = Node.preemptionType)
    {e : ClusterError} (hread : Amounts.ofReservation (c.reason.getD "") = .error e) (q : Amounts) :
    insufficientResources q m = insufficientResources q n := by
  have hreservations := h.reservations_perm hc
  rw [hread] at hreservations
  exact insufficientResources_congr h.allocatable_eq (congrArg List.length h.pods) h.requested_eq
    hreservations q

namespace Shared

/-! A node that is shared by two pods and an eviction under way, and whose second condition cannot
be read. -/

def resident (name : String) : Pod where
  metadata := { name := some name }
  spec := some {
    containers := [{ resources := some { requests := some (.ofList [("cpu", "250m")]) } }] }

def wanted : Amounts := .ofList (.ofList [("cpu", "1000m"), ("nvidia.com/gpu", "1")])

def node (conditions : List NodeCondition) : Node where
  metadata := { name := some "n1" }
  status := some {
    allocatable := some (.ofList [("cpu", "2000m"), ("nvidia.com/gpu", "1"), ("pods", "3")])
    conditions := some conditions }

def full : NodeInfo where
  node := node [.holding "500,0,0", .holding "half a core"]
  pods := [resident "first", resident "second"]

end Shared

end NodeInfo

end PodPlacement
