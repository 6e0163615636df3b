import PodPlacement.Framework.Basic

/-!
Running the plugins of a framework over a pod and its nodes. A verdict against a pod or a node is
passed on as it is; anything else that is no success is the plugin's own failure and says whose.
-/

namespace PodPlacement

def Pod.describe (p : Pod) : String := p.keyText?.getD "<unnamed>"

namespace Framework

def runPreFilters (plugins : List (Named PreFilter)) (state : CycleState) (p : Pod) :
    Status × CycleState :=
  match plugins with
  | [] => (.success, state)
  | plugin :: rest =>
    let (status, state) := plugin.run state p
    if status.isSuccess then runPreFilters rest state p
    else if status.isUnschedulable then (status, state)
    else
      (.error ("error while running " ++ plugin.name ++ " prefilter plugin for pod " ++
        p.describe ++ ": " ++ status.message), state)

/-- The verdicts against the node by plugin; one failure stands alone. -/
def collectVerdicts (describe : String → Status → String) :
    List (String × Status) → Table Status → Table Status
  | [], found => found
  | (name, status) :: rest, found =>
    if status.isSuccess then collectVerdicts describe rest found
    else if status.isUnschedulable then collectVerdicts describe rest (found.insert name status)
    else Table.empty.insert name (.error (describe name status))

def runFilters (plugins : List (Named Filter)) (env : Surroundings) (state : CycleState) (p : Pod)
    (n : NodeInfo) : Table Status :=
  collectVerdicts
    (fun name status ↦ "running " ++ name ++ " filter plugin for pod " ++ p.describe ++
      " on node " ++ n.name ++ ": " ++ status.message)
    (plugins.map fun plugin ↦ (plugin.name, plugin.run env state p n)) ∅

def runPreScores (plugins : List (Named PreScore)) (state : CycleState) (p : Pod)
    (nodes : List NodeInfo) : Status × CycleState :=
  match plugins with
  | [] => (.success, state)
  | plugin :: rest =>
    let (status, state) := plugin.run state p nodes
    if status.isSuccess then runPreScores rest state p nodes
    else
      (.error ("error while running " ++ plugin.name ++ " prescore plugin for pod " ++ p.describe ++
        ": " ++ status.message), state)

end Framework

end PodPlacement
