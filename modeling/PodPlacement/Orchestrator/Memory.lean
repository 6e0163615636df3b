import PodPlacement.Cluster.View
import PodPlacement.Orchestrator.Call

/-!
An orchestrator that keeps everything in memory. It numbers the versions of its objects, refuses
status updates of nodes that were read too long ago, and can be told to fail.
-/

namespace PodPlacement

structure Faults where
  /-- Status updates of nodes that will be refused as conflicts. -/
  nodeConflicts : Nat := 0
  /-- Reads of workloads that will fail. -/
  readFailures : Nat := 0
  /-- Reads for which a deleted pod stays visible. -/
  lingerReads : Nat := 0
  binds : Bool := false
  deletes : Bool := false
deriving DecidableEq, Repr, Inhabited

structure Memory where
  cluster : ClusterView := {}
  /-- Deleted pods that can still be read, with the number of reads left. -/
  lingering : Table (Pod × Nat) := ∅
  bindings : List (String × String) := []
  deletions : List (String × DeleteOptions) := []
  events : List Event := []
  version : Nat := 0
  faults : Faults := {}
deriving Inhabited

namespace Memory

def bump (m : Memory) : Memory := { m with version := m.version + 1 }

def versionText (m : Memory) : String := toString m.version

def stamp (m : Memory) (metadata : Metadata) : Metadata :=
  { metadata with version := some m.versionText }

def putNode (m : Memory) (name : String) (n : Node) : Memory :=
  { m with cluster := { m.cluster with nodes := m.cluster.nodes.insert name n } }

def putPod (m : Memory) (key : String) (p : Pod) : Memory :=
  { m with cluster := { m.cluster with pods := m.cluster.pods.insert key p } }

def addNode (m : Memory) (n : Node) : Memory :=
  let m := m.bump
  m.putNode n.name { n with metadata := m.stamp n.metadata }

def addPod (m : Memory) (p : Pod) : Except ClusterError Memory :=
  (WorkloadKey.ofPod p).map fun key ↦
    let m := m.bump
    m.putPod key.text { p with metadata := m.stamp p.metadata }

/-! ### Calls -/

/-- Workloads are read and deleted under namespace and name, also when the namespace is empty. -/
def fullKey (space name : String) : String := space ++ "/" ++ name

def getWorkload (m : Memory) (key : String) : Except ClusterError Pod × Memory :=
  if 0 < m.faults.readFailures then
    (.error (.transport ("reading " ++ key ++ ": 503 Service Unavailable")),
      { m with faults := { m.faults with readFailures := m.faults.readFailures - 1 } })
  else
    match m.cluster.pods.get? key, m.lingering.get? key with
    | some p, _ => (.ok p, m)
    | none, some (p, left + 1) => (.ok p, { m with lingering := m.lingering.insert key (p, left) })
    | none, _ => (.error (.notFound key), m)

def updateWorkloadStatus (m : Memory) (p : Pod) : Except ClusterError Pod × Memory :=
  match WorkloadKey.ofPod p with
  | .error e => (.error e, m)
  | .ok key =>
    let m := m.bump
    match m.cluster.pods.get? key.text with
    | none => (.error (.notFound key.text), m)
    | some stored =>
      let stored := { stored with status := p.status, metadata := m.stamp stored.metadata }
      (.ok stored, m.putPod key.text stored)

def annotateWith (old : Option (Table String)) : Option (Table String) → Option (Table String)
  | none => old
  | some new => some (new.foldl (fun t k v ↦ t.insert k v) (old.getD ∅))

def assign (p : Pod) (node : String) : Pod :=
  { p with spec := some { p.spec.getD {} with nodeName := some node } }

def bindPod (m : Memory) (p : Pod) (node : String) : Except ClusterError Unit × Memory :=
  match WorkloadKey.ofPod p with
  | .error e => (.error e, m)
  | .ok key =>
    if m.faults.binds then (.error (.internal ("binding " ++ key.text ++ " refused")), m)
    else if !m.cluster.nodes.contains node then (.error (.notFound node), m)
    else
      let m := m.bump
      match m.cluster.pods.get? key.text with
      | none => (.error (.notFound key.text), m)
      | some stored =>
        let stored := assign stored node
        let annotations := annotateWith stored.metadata.annotations p.metadata.annotations
        let metadata := m.stamp { stored.metadata with annotations }
        let m := m.putPod key.text { stored with metadata }
        (.ok (), { m with bindings := m.bindings ++ [(key.text, node)] })

def deleteWorkload (m : Memory) (key : String) (options : DeleteOptions) :
    Except ClusterError Unit × Memory :=
  if m.faults.deletes then (.error (.internal ("deleting " ++ key ++ " refused")), m)
  else
    match m.cluster.pods.get? key with
    | none => (.error (.notFound key), m)
    | some p =>
      let lingering :=
        if 0 < m.faults.lingerReads then m.lingering.insert key (p, m.faults.lingerReads)
        else m.lingering
      (.ok (), { m with
        cluster := { m.cluster with pods := m.cluster.pods.erase key }
        lingering
        deletions := m.deletions ++ [(key, options)] })

def getNode (m : Memory) (name : String) : Except ClusterError Node :=
  match m.cluster.nodes.get? name with
  | some n => .ok n
  | none => .error (.notFound name)

/-- An update that names a version has to name the present one. -/
def updateNodeStatus (m : Memory) (n : Node) : Except ClusterError Node × Memory :=
  if 0 < m.faults.nodeConflicts then
    (.error (.conflict n.name "injected conflict"),
      { m with faults := { m.faults with nodeConflicts := m.faults.nodeConflicts - 1 } })
  else
    match m.cluster.nodes.get? n.name with
    | none => (.error (.notFound n.name), m)
    | some stored =>
      if n.metadata.version.isSome && n.metadata.version != stored.metadata.version then
        (.error (.conflict n.name
          "the object has been modified; please apply your changes to the latest version"), m)
      else
        let m := m.bump
        let stored := { stored with status := n.status, metadata := m.stamp stored.metadata }
        (.ok stored, m.putNode n.name stored)

def perform (m : Memory) : (c : Call) → c.Answer × Memory
  | .getWorkload space name => m.getWorkload (fullKey space name)
  | .updateWorkloadStatus p => m.updateWorkloadStatus p
  | .bind p node => m.bindPod p node
  | .deleteWorkload space name options => m.deleteWorkload (fullKey space name) options
  | .getNode name => (m.getNode name, m)
  | .updateNodeStatus n => m.updateNodeStatus n
  | .createEvent e => (.ok (), { m with events := m.events ++ [e] })

end Memory

end PodPlacement
