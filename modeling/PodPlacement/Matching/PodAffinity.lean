import PodPlacement.Cluster.Snapshot
import PodPlacement.Matching.Selector

/-!
Which pods an affinity term selects, and the topology domain a node belongs to.
-/

namespace PodPlacement

/-- A label of nodes with one of its values: the nodes that carry it. -/
structure Domain where
  key : String
  value : String
deriving DecidableEq, Repr, Inhabited

def NodeInfo.domain? (n : NodeInfo) (topologyKey : String) : Option Domain :=
  (n.node.labels.get? topologyKey).map fun value ↦ ⟨topologyKey, value⟩

def NodeInfo.domains (n : NodeInfo) : List Domain :=
  n.node.labels.entries.map fun e ↦ ⟨e.1, e.2⟩

namespace PodAffinityTerm

/-- A namespace selector that says nothing at all stands for every namespace. -/
def allNamespaces (t : PodAffinityTerm) : Bool :=
  t.namespaceSelector.any fun s ↦ s.matchLabels.isNone && s.matchExpressions.isNone

def coversNamespace (t : PodAffinityTerm) (owner space : String) : Bool :=
  let named := t.namespaces.getD []
  t.allNamespaces || if named.isEmpty then space == owner else named.contains space

def selects (t : PodAffinityTerm) (owner : String) (p : Pod) : Bool :=
  t.coversNamespace owner p.space && t.labelSelector.any (·.selects p.labels)

end PodAffinityTerm

namespace Pod

def podAffinity? (p : Pod) : Option PodAffinity := p.affinity?.bind (·.pod)

def podAntiAffinity? (p : Pod) : Option PodAffinity := p.affinity?.bind (·.podAnti)

def requiredTerms (p : Pod) : List PodAffinityTerm := (p.podAffinity?.bind (·.required)).getD []

def requiredAntiTerms (p : Pod) : List PodAffinityTerm :=
  (p.podAntiAffinity?.bind (·.required)).getD []

def preferredTerms (p : Pod) : List WeightedPodAffinityTerm :=
  (p.podAffinity?.bind (·.preferred)).getD []

def preferredAntiTerms (p : Pod) : List WeightedPodAffinityTerm :=
  (p.podAntiAffinity?.bind (·.preferred)).getD []

def termSelects (owner : Pod) (t : PodAffinityTerm) (p : Pod) : Bool := t.selects owner.space p

end Pod

namespace Snapshot

def placements (s : Snapshot) : List (NodeInfo × Pod) :=
  s.nodes.flatMap fun n ↦ n.pods.map (n, ·)

end Snapshot

end PodPlacement
