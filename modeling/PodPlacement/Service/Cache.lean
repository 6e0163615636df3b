import PodPlacement.Cluster.View
import PodPlacement.Error

/-!
A copy of the cluster, kept up to date by listings and by single changes.
-/

namespace PodPlacement

structure Listing where
  nodes : Except ClusterError (List Node) := .ok []
  pods : Except ClusterError (List Pod) := .ok []

structure Cache where
  cluster : ClusterView := {}
  /-- Whether there has ever been a full listing. -/
  synced : Bool := false
deriving Inhabited

namespace Cache

def upsertNode (c : Cache) (n : Node) : Cache :=
  { c with cluster := { c.cluster with nodes := c.cluster.nodes.insert n.name n } }

def removeNode (c : Cache) (name : String) : Cache :=
  { c with cluster := { c.cluster with nodes := c.cluster.nodes.erase name } }

def upsertPod (c : Cache) (p : Pod) : Except ServiceError Cache :=
  match WorkloadKey.ofPod p with
  | .error e => .error (.cluster e)
  | .ok key => .ok { c with cluster := { c.cluster with pods := c.cluster.pods.insert key.text p } }

def removePod (c : Cache) (key : WorkloadKey) : Cache :=
  { c with cluster := { c.cluster with pods := c.cluster.pods.erase key.text } }

def tableOfNodes (nodes : List Node) : Table Node := .ofList (nodes.map fun n ↦ (n.name, n))

def tableOfPods (pods : List Pod) : Table Pod :=
  .ofList (pods.filterMap fun p ↦ p.keyText?.map (·, p))

def replace (_ : Cache) (nodes : List Node) (pods : List Pod) : Cache where
  cluster := { nodes := tableOfNodes nodes, pods := tableOfPods pods }
  synced := true

def syncFrom (c : Cache) (l : Listing) : Except ServiceError Cache :=
  match l.nodes with
  | .error e => .error (.cluster e)
  | .ok nodes =>
    match l.pods with
    | .error e => .error (.cluster e)
    | .ok pods => .ok (c.replace nodes pods)

def pendingPods (c : Cache) (schedulerName : String) : List Pod :=
  c.cluster.pods.values.filter fun p ↦
    p.nodeName?.isNone && !p.isFinished && p.spec.bind (·.schedulerName) == some schedulerName

def snapshot (c : Cache) : Snapshot := c.cluster.snapshot

end Cache

end PodPlacement
