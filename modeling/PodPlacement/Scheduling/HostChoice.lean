import PodPlacement.Framework.Scoring

/-!
Choosing among scored nodes: the highest score wins, a draw decides between several of them.
-/

namespace PodPlacement

variable {γ : Type}

def byScoreDescending (scores : List NodeScore) : List NodeScore :=
  scores.mergeSort fun a b ↦ b.score ≤ a.score

def leaders (scores : List NodeScore) : List NodeScore :=
  match byScoreDescending scores with
  | [] => []
  | top :: rest => top :: rest.takeWhile (·.score == top.score)

/-- Draws only between two or more leaders; `draw n` gives a number below `n`. -/
def selectHost (draw : γ → Nat → Nat × γ) (g : γ) (scores : List NodeScore) : Option String × γ :=
  match leaders scores with
  | [] => (none, g)
  | [only] => (some only.name, g)
  | several =>
    let (k, g) := draw g several.length
    ((several[k]?).map (·.name), g)

end PodPlacement
