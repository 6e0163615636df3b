import PodPlacement.Proofs.Framework.Usage
import PodPlacement.Proofs.Plugins.Scores
import PodPlacement.Proofs.Scheduling.Decision

/-!
Attempts with the plugins that come with the scheduler. Whatever the nodes and the counts of use, no
plugin fails to prepare or to score, so no attempt ends for want of a score.
-/

namespace PodPlacement.Scheduler

open Framework Plugins

variable {p : Pod} {nodes : List NodeInfo}

/-- Plugins that prepare all succeed, and in the end the notes of all of them are there. -/
theorem preScoresPass_noted {plugins : List (Named PreScore)}
    (h : ∀ x ∈ plugins, ∃ plugin ∈ inTree, plugin.name = x.name ∧ plugin.preScore = some x.run)
    (notes : CycleState) :
    ∃ final, PreScoresPass p nodes plugins notes final ∧ (∀ x ∈ plugins, Noted final x.name) ∧
      ∀ name, Noted notes name → Noted final name := by
  induction plugins generalizing notes with
  | nil => exact ⟨notes, .nil notes, by simp, fun _ hn ↦ hn⟩
  | cons x rest ih =>
    obtain ⟨plugin, hplugin, hname, hrun⟩ := h x (List.mem_cons_self ..)
    obtain ⟨between, hstep, hown, hkept⟩ := preScore_noted hplugin hrun nodes
    obtain ⟨final, hpass, hnoted, hlater⟩ := ih (fun y hy ↦ h y (List.mem_cons_of_mem _ hy)) between
    refine ⟨final, .cons hstep rfl hpass, fun y hy ↦ ?_, fun name hn ↦ hlater name (hkept name hn)⟩
    rcases List.mem_cons.1 hy with rfl | hy
    · exact hlater _ (hname ▸ hown)
    · exact hnoted y hy

/-- Plugins that score on notes are also listed to prepare them. -/
structure PreparesScores (set : PluginSet) : Prop where
  taints : TaintToleration.name ∈ set.score.map (·.name) →
    TaintToleration.name ∈ set.preScore.map (·.name)
  affinity : InterPodAffinity.name ∈ set.score.map (·.name) →
    InterPodAffinity.name ∈ set.preScore.map (·.name)

variable {s : Scheduler} {snapshot : Snapshot}

section

variable {set : PluginSet} {threshold : Nat}
  (hset : Framework.ofPlugins .inTree set = .ok s.framework) (hprepares : PreparesScores set)
  (husage : s.usage.Reachable threshold) (hthreshold : threshold < 2 ^ 64) (hexp : Damps s.exp)

include hset hprepares husage hthreshold hexp

/-- With plugins that come with the scheduler every node can be scored. -/
theorem scored_of_inTree (snapshot : Snapshot) (p : Pod) (nodes : List NodeInfo) :
    ∃ notes, PreScoresPass p nodes s.framework.preScores { snapshot } notes ∧
      ∀ plugin ∈ s.framework.scores, ∀ n : NodeInfo,
        ∃ x, plugin.run s.surroundings notes p n = .ok x ∧ InRange x := by
  obtain ⟨notes, hpass, hnoted, -⟩ :=
    preScoresPass_noted (exists_plugin_of_mem_preScores hset) { snapshot }
  have hnames := preScores_names (Registry.ofPlugins_namesPlugins inTree) hset
  have hlisted {name : String} (h : name ∈ set.preScore.map (·.name)) : Noted notes name := by
    rw [← hnames] at h
    obtain ⟨x, hx, rfl⟩ := List.mem_map.1 h
    exact hnoted x hx
  have hhighest : s.surroundings.usage.highest < 2 ^ 64 :=
    husage.highest_le.trans_lt (Nat.max_lt.2 ⟨by decide, hthreshold⟩)
  refine ⟨notes, hpass, fun x hx n ↦ ?_⟩
  obtain ⟨plugin, hplugin, hname, hrun, hscored⟩ := exists_plugin_of_mem_scores hset x hx
  refine score_inRange hplugin hrun hexp hhighest ⟨fun h ↦ ?_, fun h ↦ ?_⟩
  · exact (hlisted (hprepares.taints (h ▸ hname ▸ hscored))).tolerations rfl
  · exact (hlisted (hprepares.affinity (h ▸ hname ▸ hscored))).nodeScores rfl

theorem prioritizeNodes_of_inTree (snapshot : Snapshot) (p : Pod) (nodes : List NodeInfo) :
    ∃ scores, s.prioritizeNodes snapshot p nodes = .ok scores := by
  have hdistinct := score_names_nodup (Registry.ofPlugins_namesPlugins inTree) hset
  rcases prioritizeNodes_cases s snapshot p nodes hdistinct with ⟨_, _, _, hok⟩ | ⟨hnone, _⟩
  · exact ⟨_, hok⟩
  · obtain ⟨notes, hpass, hscored⟩ :=
      scored_of_inTree hset hprepares husage hthreshold hexp snapshot p nodes
    refine absurd ⟨notes, _, hpass, fun n _ ↦ totalScore_of_evaluates _ _ _ fun x hx ↦ ?_⟩ hnone
    obtain ⟨score, hrun, hlow, hhigh⟩ := hscored x hx n
    exact ⟨_, (ScoreRun.evaluate_eq_ok_iff _ _ _).2 ⟨score, hrun, hlow, hhigh, rfl⟩⟩

end

/-- Only an attempt that could not rank its nodes fails for a plugin's sake, and none fails for want
of a score. -/
theorem Ending.of_ranked {result : Except SchedulingError Decision}
    (h : Ending s snapshot p result)
    (hranked : ∀ nodes, ∃ scores, s.prioritizeNodes snapshot p nodes = .ok scores)
    (detail : String) : result ≠ .error (.plugin detail) ∧ result ≠ .error (.internal detail) := by
  cases h with
  | failed nodes cause hfailed =>
    obtain ⟨scores, hscores⟩ := hranked nodes
    cases hscores.symm.trans hfailed
  | _ => exact ⟨nofun, nofun⟩

/-- Scoring with plugins that come with the scheduler aborts no attempt: they all succeed in
preparing for a list of nodes, and their scores for every node are in range. Counts of use have 64
bits. -/
theorem inTree_never_aborts {set : PluginSet} {threshold : Nat}
    (hset : Framework.ofPlugins .inTree set = .ok s.framework) (hprepares : PreparesScores set)
    (husage : s.usage.Reachable threshold) (hthreshold : threshold < 2 ^ 64) (hexp : Damps s.exp)
    (snapshot : Snapshot) (p : Pod) :
    (∀ nodes, ∃ notes,
      runPreScores s.framework.preScores { snapshot } p nodes = (.success, notes) ∧
      ∀ plugin ∈ s.framework.scores, ∀ n : NodeInfo, ∃ x,
        plugin.run s.surroundings notes p n = .ok x ∧ minScore ≤ x ∧ x ≤ maxScore) ∧
    ∀ fitting freeing detail,
      (s.schedule fitting freeing snapshot p).1 ≠ .error (.plugin detail) ∧
      (s.schedule fitting freeing snapshot p).1 ≠ .error (.internal detail) := by
  refine ⟨fun nodes ↦ ?_, fun fitting freeing ↦
    (schedule_ending fitting freeing).of_ranked fun nodes ↦ ?_⟩
  · obtain ⟨notes, hpass, hscored⟩ :=
      scored_of_inTree hset hprepares husage hthreshold hexp snapshot p nodes
    exact ⟨notes, runPreScores_of_pass hpass, hscored⟩
  · exact prioritizeNodes_of_inTree hset hprepares husage hthreshold hexp snapshot p nodes

namespace ChosenOnce

/-! The plugins that take part by default, and a node that was chosen once before. -/

/-- The exponential function where it is taken as long as every count is zero or the highest. -/
def exp (x : Float) : Float := if x < 0 then 0.006737946999085467 else 1

theorem damps_exp : Damps exp := by
  intro x _
  unfold exp
  split
  · decide +kernel
  · decide +kernel

def scheduler (framework : Framework) : Scheduler where
  framework
  settings := { plugins := .standard }
  exp
  usage := (Usage.fresh Usage.defaultThreshold).increase "n1"
  random := .ofSeed 0

def idle : NodeInfo := { Crowded.full with pods := [] }

end ChosenOnce

open ChosenOnce in
theorem inTree_never_aborts_chosen_once : ∃ framework notes,
    Framework.ofPlugins .inTree .standard = .ok framework ∧
    runPreScores framework.preScores { snapshot := .ofNodes [idle] } Crowded.urgent [idle] =
      (.success, notes) ∧
    (∀ plugin ∈ framework.scores, ∃ x,
      plugin.run (scheduler framework).surroundings notes Crowded.urgent idle = .ok x ∧
        minScore ≤ x ∧ x ≤ maxScore) ∧
    ∀ fitting freeing detail,
      ((scheduler framework).schedule fitting freeing (.ofNodes [idle]) Crowded.urgent).1 ≠
        .error (.plugin detail) ∧
      ((scheduler framework).schedule fitting freeing (.ofNodes [idle]) Crowded.urgent).1 ≠
        .error (.internal detail) := by
  obtain ⟨framework, hset⟩ : ∃ framework,
      Framework.ofPlugins .inTree .standard = .ok framework := ⟨_, rfl⟩
  have husage : (scheduler framework).usage.Reachable Usage.defaultThreshold := ⟨["n1"], rfl⟩
  have hthreshold : Usage.defaultThreshold < 2 ^ 64 := by decide
  obtain ⟨hscored, hends⟩ := inTree_never_aborts (s := scheduler framework) hset
    ⟨by decide, by decide⟩ husage hthreshold damps_exp (.ofNodes [idle]) Crowded.urgent
  obtain ⟨notes, hpass, hrange⟩ := hscored [idle]
  exact ⟨framework, notes, hset, hpass, fun plugin hp ↦ hrange plugin hp idle, hends⟩

end PodPlacement.Scheduler
