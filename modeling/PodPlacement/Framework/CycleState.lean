import PodPlacement.Cluster.Snapshot
import PodPlacement.Matching.PodAffinity
import PodPlacement.Resource.Request

/-!
The notes that plugins leave for each other during one scheduling attempt.
-/

namespace PodPlacement

structure AffinityDomains where
  /-- For each required term the domains that hold a pod it selects. -/
  affinity : List (List Domain)
  /-- The domains that hold a pod selected by a required term against company. -/
  antiAffinity : List Domain
  /-- The domains of placed pods that refuse the company of this pod. -/
  existingAntiAffinity : List Domain
deriving DecidableEq, Repr, Inhabited

inductive CycleEntry
  | request (amounts : Amounts)
  | wantedPorts (ports : List HostPort)
  | affinityDomains (domains : AffinityDomains)
  | softTolerations (tolerations : List Toleration)
  | nodeScores (scores : Table Int)
  | integer (n : Int)
  | text (s : String)
  | flag (b : Bool)
deriving DecidableEq, Repr

structure CycleState where
  snapshot : Snapshot
  notes : Table CycleEntry := ∅

namespace CycleState

def write (s : CycleState) (key : String) (e : CycleEntry) : CycleState :=
  { s with notes := s.notes.insert key e }

def read? (s : CycleState) (key : String) : Option CycleEntry := s.notes.get? key

def delete (s : CycleState) (key : String) : CycleState := { s with notes := s.notes.erase key }

end CycleState

end PodPlacement
