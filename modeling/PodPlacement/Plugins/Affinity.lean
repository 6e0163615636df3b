import PodPlacement.Framework.Plugin
import PodPlacement.Matching.PodAffinity

/-!
Affinity to nodes, and affinity between pods across topology domains. What the placed pods say is
gathered once for an attempt, so that a node is judged by its labels alone.
-/

namespace PodPlacement.Plugins

namespace NodeAffinity

def name : String := "NodeAffinity"

def filter : Filter := fun _ _ p n ↦
  .check (p.acceptsNode n.node) (.unresolvable "node(s) didn't match Pod's node affinity/selector")

def totalWeight (terms : List PreferredNodeTerm) : Int :=
  terms.foldl (fun total t ↦ total + max t.weight 0) 0

def preferenceScore (terms : List PreferredNodeTerm) (n : Node) : Int :=
  let total := totalWeight terms
  if total = 0 then 0
  else maxScore * totalWeight (terms.filter (·.preference.selects n)) / total

def score : Score := fun _ _ p n ↦ .ok (preferenceScore p.preferredNodeTerms n.node)

def plugin : Plugin := { name, filter := some filter, score := some score }

end NodeAffinity

namespace InterPodAffinity

def name : String := "InterPodAffinity"

def filterNote : String := "PreFilterInterPodAffinity"

def scoreNote : String := "PreScoreInterPodAffinity"

/-! ### Binding terms -/

def selectedDomains (s : Snapshot) (p : Pod) (t : PodAffinityTerm) : List Domain :=
  s.placements.filterMap fun (n, placed) ↦
    if p.termSelects t placed then n.domain? t.topologyKey else none

def refusingDomains (s : Snapshot) (p : Pod) : List Domain :=
  s.placements.flatMap fun (n, placed) ↦
    placed.requiredAntiTerms.filterMap fun t ↦
      if placed.termSelects t p then n.domain? t.topologyKey else none

def gather (s : Snapshot) (p : Pod) : AffinityDomains where
  affinity := p.requiredTerms.map (selectedDomains s p)
  antiAffinity := p.requiredAntiTerms.flatMap (selectedDomains s p)
  existingAntiAffinity := refusingDomains s p

def preFilter : PreFilter := fun state p ↦
  (.success, state.write filterNote (.affinityDomains (gather state.snapshot p)))

def inDomains (domains : List Domain) (n : NodeInfo) (t : PodAffinityTerm) : Bool :=
  (n.domain? t.topologyKey).any domains.contains

/-- Whether the pod may be the first of a group that selects its own members: nothing it selects is
placed anywhere, it selects itself, and the node belongs to a domain for every term. -/
def mayOpenGroup (d : AffinityDomains) (p : Pod) (n : NodeInfo) : Bool :=
  d.affinity.all List.isEmpty && p.requiredTerms.all (fun t ↦ p.termSelects t p) &&
    p.requiredTerms.all fun t ↦ n.node.labels.contains t.topologyKey

def judge (d : AffinityDomains) (p : Pod) (n : NodeInfo) : Status :=
  if n.domains.any d.existingAntiAffinity.contains then
    .unschedulable "node(s) didn't satisfy existing pods anti-affinity rules"
  else if p.requiredAntiTerms.any (inDomains d.antiAffinity n) then
    .unschedulable "node(s) didn't match pod anti-affinity rules"
  else if (p.requiredTerms.zip d.affinity).all (fun (t, domains) ↦ inDomains domains n t) ||
      mayOpenGroup d p n then .success
  else .unresolvable "node(s) didn't match pod affinity rules"

def filter : Filter := fun _ state p n ↦
  match state.read? filterNote with
  | some (.affinityDomains d) => judge d p n
  | _ => missingNote filterNote

/-! ### Wished-for terms -/

abbrev DomainScores := Table (Table Int)

namespace DomainScores

def add (t : DomainScores) (d : Domain) (weight : Int) : DomainScores :=
  t.adjust d.key fun values ↦ (values.getD ∅).adjust d.value fun old ↦ old.getD 0 + weight

def get (t : DomainScores) (d : Domain) : Int := (t.getD d.key ∅).getD d.value 0

end DomainScores

def contributions (n : NodeInfo) (owner other : Pod) : List (Domain × Int) :=
  let given (sign : Int) (terms : List WeightedPodAffinityTerm) : List (Domain × Int) :=
    terms.filterMap fun w ↦
      if owner.termSelects w.term other then
        (n.domain? w.term.topologyKey).map (·, sign * w.weight)
      else none
  given 1 owner.preferredTerms ++ given (-1) owner.preferredAntiTerms

def domainScores (s : Snapshot) (p : Pod) : DomainScores :=
  let all := s.placements.flatMap fun (n, placed) ↦
    contributions n p placed ++ contributions n placed p
  all.foldl (fun t e ↦ t.add e.1 e.2) (∅ : Table (Table Int))

def rawScore (t : DomainScores) (n : NodeInfo) : Int :=
  n.domains.foldl (fun total domain ↦ total + t.get domain) 0

def normalize (raw : List (String × Int)) : List (String × Int) :=
  let scores := raw.map (·.2)
  let high := scores.max?.getD 0
  let low := scores.min?.getD 0
  raw.map fun e ↦
    (e.1, if low < high then maxScore * (e.2 - low) / (high - low) else 0)

def preScore : PreScore := fun state p nodes ↦
  let t := domainScores state.snapshot p
  let raw := nodes.map fun n ↦ (n.name, rawScore t n)
  (.success, state.write scoreNote (.nodeScores (.ofList (normalize raw))))

def score : Score := fun _ state _ n ↦
  match state.read? scoreNote with
  | some (.nodeScores scores) => .ok (scores.getD n.name 0)
  | _ => .error (missingNote scoreNote)

def plugin : Plugin :=
  { name, preFilter := some preFilter, filter := some filter, preScore := some preScore,
    score := some score }

end InterPodAffinity

end PodPlacement.Plugins
