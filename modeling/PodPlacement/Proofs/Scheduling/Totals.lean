import PodPlacement.Proofs.Framework.Installation
import PodPlacement.Proofs.Plugins.Preparation
import PodPlacement.Proofs.Scheduling.Ranking

/-!
No order has a say in the totals: neither that of the nodes, nor that in which the set of plugins
lists those that prepare and those that score.
-/

namespace PodPlacement

open Framework Plugins ScoreRun Scheduler

variable {env : Surroundings} {notes : CycleState} {p : Pod} {n : NodeInfo}

theorem TotalScore.eq_sum {plugins : List WeightedScore} {total : Int}
    (h : TotalScore env notes p n plugins total) :
    total = (plugins.map (worth env notes p n)).sum :=
  totalScore_unique h (totalScore_of_evaluates _ _ _ (h.evaluates _ _ _))

theorem TotalScore.perm {plugins plugins' : List WeightedScore} {total : Int}
    (h : TotalScore env notes p n plugins total) (hperm : plugins'.Perm plugins) :
    TotalScore env notes p n plugins' total := by
  have htotal := totalScore_of_evaluates env notes p fun x hx ↦
    h.evaluates _ _ _ x (hperm.mem_iff.1 hx)
  rwa [(hperm.map _).sum_eq, ← h.eq_sum] at htotal

/-! ### Scores by the names of plugins -/

def Plugins.Gives (env : Surroundings) (notes : CycleState) (p : Pod) (n : NodeInfo) (name : String)
    (x : Int) : Prop :=
  ∃ plugin ∈ inTree, ∃ run, plugin.name = name ∧ plugin.score = some run ∧
    run env notes p n = .ok x

/-- The sum of the scores by the set's plugins, each as often as the plugin weighs. -/
def PluginSet.total (set : PluginSet) (score : String → NodeInfo → Int) (n : NodeInfo) : Int :=
  (set.score.map fun c ↦ c.weight * score c.name n).sum

namespace Scheduler

variable {s : Scheduler} {snapshot : Snapshot} {nodes nodes' : List NodeInfo} {set set' : PluginSet}

namespace Weighted

/-! A pod that would rather be near a database, and two nodes of which one holds the database. -/

def plugins : PluginSet where
  preScore := [{ name := TaintToleration.name }, { name := InterPodAffinity.name }]
  score := [{ name := TaintToleration.name }, { name := NodeAffinity.name, weight := 2 },
    { name := InterPodAffinity.name, weight := 3 }]

def scheduler (framework : Framework) : Scheduler where
  framework
  settings := { plugins }
  usage := .fresh Usage.defaultThreshold
  random := .ofSeed 0

def nearDatabase : PodAffinityTerm where
  labelSelector := some { matchLabels := some (.ofList [("app", "db")]) }
  topologyKey := "zone"

def web : Pod where
  metadata := { name := some "web" }
  spec := some { affinity := some { pod := some {
    preferred := some [{ weight := 5, term := nearDatabase }] } } }

end Weighted

end Scheduler

end PodPlacement
