import PodPlacement.Proofs.Framework.Scoring
import PodPlacement.Proofs.Table

/-!
What the scoring of nodes side by side answers. The verdict is the same for every order of the
tasks' steps; only which of several failures is reported depends on it.
-/

namespace PodPlacement

namespace ScoreRun

variable (env : Surroundings) (notes : CycleState) (p : Pod)

variable {env notes p} {plugins : List WeightedScore} {nodes : List NodeInfo}

namespace OutOfRange

/-! Two plugins, of which the second gives one of two nodes too much. -/

def even : WeightedScore := ⟨"Even", 3, fun _ _ _ _ ↦ .ok 10⟩

def generous : WeightedScore :=
  ⟨"Generous", 2, fun _ _ _ n ↦ .ok (if n.name = "n2" then 101 else 25)⟩

def both : List NodeInfo :=
  ["n1", "n2"].map fun name ↦ { node := { metadata := { name := some name } }, pods := [] }

def blank : CycleState := { snapshot := .ofNodes [] }

def run : ScoreRun :=
  (start [even, generous] both).steps {} blank {} [1, 1, 1, 1, 1, 0]

end OutOfRange

end ScoreRun

end PodPlacement
