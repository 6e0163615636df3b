import PodPlacement.Framework.Run
import PodPlacement.Proofs.Plugins.Scores

/-!
What the plugins leave for each other when they prepare for scoring. No plugin reads the note of
another, and a note says the same of each node whatever the order of the nodes; so the notes in the
end are the same for every order of the plugins and of the nodes.
-/

namespace PodPlacement

namespace Plugins

variable {p : Pod} {nodes nodes' : List NodeInfo}

namespace InterPodAffinity

def nodeScores (s : Snapshot) (p : Pod) (nodes : List NodeInfo) : Table Int :=
  .ofList (normalize (nodes.map fun n ↦ (n.name, rawScore (domainScores s p) n)))

end InterPodAffinity

end Plugins

namespace Framework

open Plugins

variable {p : Pod} {nodes nodes' : List NodeInfo} {plugins plugins' : List (Named PreScore)}

end Framework

end PodPlacement
