import PodPlacement.Framework.Plugin
import PodPlacement.Matching.Toleration

/-!
Taints keep pods off a node, or make the node less welcome to them.
-/

namespace PodPlacement.Plugins.TaintToleration

def name : String := "TaintToleration"

def note : String := "PreScoreTaintToleration"

def describe (t : Taint) : String :=
  "node(s) had untolerated taint \x7b" ++ t.key ++ ": " ++ t.value.getD "" ++ "\x7d"

def filter : Filter := fun _ _ p n ↦
  match firstUntolerated n.node.taints p.tolerations Taint.isHard with
  | none => .success
  | some taint => .unresolvable (describe taint)

def preScore : PreScore := fun state p _ ↦
  (.success, state.write note (.softTolerations (p.tolerations.filter (·.coversSoft))))

def softScore (tolerations : List Toleration) (taints : List Taint) : Int :=
  let soft := taints.filter (·.isSoft)
  if soft.isEmpty then maxScore
  else maxScore * (soft.filter (toleratedBy tolerations)).length / soft.length

def score : Score := fun _ state _ n ↦
  match state.read? note with
  | some (.softTolerations tolerations) => .ok (softScore tolerations n.node.taints)
  | _ => .error (missingNote note)

def plugin : Plugin :=
  { name, filter := some filter, preScore := some preScore, score := some score }

end PodPlacement.Plugins.TaintToleration
