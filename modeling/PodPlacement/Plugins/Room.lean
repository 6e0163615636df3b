import PodPlacement.Framework.Plugin

/-!
Filters for what pods use up on a node: resources and host ports. What other preemptions hold back
counts as used.
-/

namespace PodPlacement

/-- What the node lacks for the request, as reasons for people; empty when the request fits. -/
def insufficientResources (request : Amounts) (n : NodeInfo) : List String :=
  let allowed := n.allocatable.pods
  let crowded := 0 < allowed ∧ allowed < (n.pods.length : Int) + 1
  let free := n.free
  let lacking (what : String) (wanted there : Int) : List String :=
    if there < wanted then ["Insufficient " ++ what] else []
  (if crowded then ["Too many pods"] else []) ++
    if request.isZero && request.extended.values.all (· == 0) then []
    else
      lacking "cpu" request.cpu free.cpu ++ lacking "memory" request.memory free.memory ++
        lacking "ephemeral-storage" request.ephemeral free.ephemeral ++
        request.extended.entries.flatMap fun e ↦ lacking e.1 e.2 (free.extended.getD e.1 0)

namespace Plugins

namespace NodeResourcesFit

def name : String := "NodeResourcesFit"

def note : String := "PreFilterNodeResourcesFit"

def preFilter : PreFilter := fun state p ↦ (.success, state.write note (.request p.request))

def filter : Filter := fun _ state _ n ↦
  match state.read? note with
  | some (.request request) =>
    match insufficientResources request n with
    | [] => .success
    | reasons => ⟨.unschedulable, reasons⟩
  | _ => missingNote note

def plugin : Plugin := { name, preFilter := some preFilter, filter := some filter }

end NodeResourcesFit

namespace NodePorts

def name : String := "NodePorts"

def note : String := "PreFilterNodePorts"

def clash (wanted used : List HostPort) : Bool := wanted.any fun w ↦ used.any w.conflictsWith

def preFilter : PreFilter := fun state p ↦ (.success, state.write note (.wantedPorts p.hostPorts))

def filter : Filter := fun _ state _ n ↦
  match state.read? note with
  | some (.wantedPorts wanted) =>
    .check (!clash wanted n.usedPorts)
      (.unschedulable "node(s) didn't have free ports for the requested pod ports")
  | _ => missingNote note

def plugin : Plugin := { name, preFilter := some preFilter, filter := some filter }

end NodePorts

end Plugins

end PodPlacement
