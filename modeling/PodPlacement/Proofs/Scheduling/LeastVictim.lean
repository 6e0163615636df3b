import PodPlacement.Proofs.Cluster.NodeInfo

/-!
The victim is the least important of the pods that may be evicted: of least priority, and of those
with the same priority the first on the node.
-/

namespace PodPlacement

/-! ### Searching a list that was sorted by rank -/

section Sorted

variable {α : Type} {rank : α → Int} {p : α → Bool}

end Sorted

/-! ### The victim -/

namespace NodeInfo

end NodeInfo

end PodPlacement
