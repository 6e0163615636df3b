import PodPlacement.Cluster.NodeInfo

/-!
The cluster at one moment: its nodes in listing order, and how many of them hold each image.
-/

namespace PodPlacement

def countImages (nodes : List NodeInfo) : Table Nat :=
  nodes.foldl (fun t n ↦ n.images.keys.foldl (fun t image ↦ t.adjust image (·.getD 0 + 1)) t) ∅

structure Snapshot where
  nodes : List NodeInfo
  imageCounts : Table Nat := countImages nodes
  imageCounts_eq : imageCounts = countImages nodes := by rfl

namespace Snapshot

def ofNodes (nodes : List NodeInfo) : Snapshot := { nodes }

def empty : Snapshot := ofNodes []

instance : Inhabited Snapshot := ⟨empty⟩

/-- The node of that name, the last one where several have it. -/
def get? (s : Snapshot) (name : String) : Option NodeInfo :=
  s.nodes.reverse.find? (·.name == name)

def nodesWithImage (s : Snapshot) (image : String) : Nat := s.imageCounts.getD image 0

end Snapshot

end PodPlacement
