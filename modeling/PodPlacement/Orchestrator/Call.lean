import PodPlacement.Document
import PodPlacement.Error
import PodPlacement.Object.Event
import PodPlacement.Object.Node
import PodPlacement.Object.Pod

/-!
What an orchestrator can be asked to do. A stale update of an object is answered with a conflict,
a missing object with "not found".
-/

namespace PodPlacement

inductive PropagationPolicy
  | background
  | foreground
  | orphan
deriving DecidableEq, Repr, Inhabited

namespace PropagationPolicy

def text : PropagationPolicy → String
  | background => "Background"
  | foreground => "Foreground"
  | orphan => "Orphan"

def ofText? : String → Option PropagationPolicy
  | "Background" => some background
  | "Foreground" => some foreground
  | "Orphan" => some orphan
  | _ => none

/-- The name alone, or an object whose one member has that name and says nothing more. -/
def ofJson? : Json → Option PropagationPolicy
  | .str s => ofText? s
  | .obj [(name, .null)] => ofText? name
  | _ => none

end PropagationPolicy

structure DeleteOptions where
  graceSeconds : Int
  policy : PropagationPolicy
deriving DecidableEq, Repr, Inhabited

def DeleteOptions.ofJson? (j : Json) : Option DeleteOptions := do
  let f ← Fields.read ["grace_period_seconds", "propagation_policy"] j
  let graceSeconds ← f.required "grace_period_seconds" (Json.int? .signed64)
  let policy ← f.required "propagation_policy" PropagationPolicy.ofJson?
  return { graceSeconds, policy }

inductive Call
  | getWorkload (space name : String)
  | updateWorkloadStatus (p : Pod)
  /-- Places the pod on the node; the pod's annotations come along. -/
  | bind (p : Pod) (node : String)
  | deleteWorkload (space name : String) (options : DeleteOptions)
  | getNode (name : String)
  | updateNodeStatus (n : Node)
  | createEvent (e : Event)
deriving Inhabited

def Call.method : Call → String
  | getWorkload .. => "get_workload"
  | updateWorkloadStatus .. => "update_workload_status"
  | bind .. => "bind"
  | deleteWorkload .. => "delete_workload"
  | getNode .. => "get_node"
  | updateNodeStatus .. => "update_node_status"
  | createEvent .. => "create_event"

def Call.Reply : Call → Type
  | getWorkload .. | updateWorkloadStatus .. => Pod
  | getNode .. | updateNodeStatus .. => Node
  | bind .. | deleteWorkload .. | createEvent .. => Unit

abbrev Call.Answer (c : Call) : Type := Except ClusterError c.Reply

end PodPlacement
