import PodPlacement.Object.Node
import PodPlacement.Object.Pod

/-!
Which taints a toleration sets aside.
-/

namespace PodPlacement

namespace Taint

def noSchedule : String := "NoSchedule"

def noExecute : String := "NoExecute"

def preferNoSchedule : String := "PreferNoSchedule"

/-- A taint that keeps pods away, not only makes the node less welcome. -/
def isHard (t : Taint) : Bool := t.effect == noSchedule || t.effect == noExecute

def isSoft (t : Taint) : Bool := t.effect == preferNoSchedule

end Taint

namespace Toleration

/-- An empty effect or key covers all of them; without an operator the values have to be equal. -/
def tolerates (t : Toleration) (taint : Taint) : Bool :=
  let effect := t.effect.getD ""
  let key := t.key.getD ""
  (effect.isEmpty || effect == taint.effect) && (key.isEmpty || key == taint.key) &&
    match t.operator.getD "Equal" with
    | "Exists" => true
    | "Equal" | "" => t.value.getD "" == taint.value.getD ""
    | _ => false

def coversSoft (t : Toleration) : Bool :=
  let effect := t.effect.getD ""
  effect.isEmpty || effect == Taint.preferNoSchedule

end Toleration

def toleratedBy (tolerations : List Toleration) (taint : Taint) : Bool :=
  tolerations.any (·.tolerates taint)

def firstUntolerated (taints : List Taint) (tolerations : List Toleration)
    (applies : Taint → Bool) : Option Taint :=
  (taints.filter applies).find? fun taint ↦ !toleratedBy tolerations taint

end PodPlacement
