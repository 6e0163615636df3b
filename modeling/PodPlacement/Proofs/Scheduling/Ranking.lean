import PodPlacement.Proofs.Framework.Installation
import PodPlacement.Proofs.Framework.Scoring
import PodPlacement.Proofs.Scheduling.Verdicts
import PodPlacement.Proofs.Table

/-!
The totals by which nodes are ranked: each is the weighted sum of the plugins' scores, in whatever
order the plugins' lists are added up. It is taken in 64 bits, which hold it for all but very large
weights.
-/

namespace PodPlacement.Scheduler

open Framework ScoreRun

theorem getElem?_addScores (totals scores : List NodeScore) (i : Nat) :
    (addScores totals scores)[i]? =
      totals[i]?.map fun t ↦
        scores[i]?.elim t fun x ↦ { t with score := Word.add t.score x.score } := by
  unfold addScores
  induction totals generalizing scores i with
  | nil => simp
  | cons t totals ih =>
    cases scores with
    | nil => simp
    | cons x scores =>
      cases i with
      | zero => simp
      | succ i => simpa using ih scores i

instance : RightCommutative addScores where
  right_comm totals xs ys := by
    refine List.ext_getElem? fun i ↦ ?_
    simp only [getElem?_addScores, Option.map_map]
    cases totals[i]? with
    | none => rfl
    | some t => cases xs[i]? <;> cases ys[i]? <;> simp [Word.add_right_comm]

/-- Lists that give every node a score add up node by node. -/
theorem foldl_addScores (nodes : List NodeInfo) (f : NodeInfo → Int)
    (columns : List (NodeInfo → Int)) :
    (columns.map fun g ↦ nodes.map fun n ↦ (⟨n.name, Word.wrap (g n)⟩ : NodeScore)).foldl addScores
        (nodes.map fun n ↦ ⟨n.name, Word.wrap (f n)⟩) =
      nodes.map fun n ↦ ⟨n.name, Word.wrap (f n + (columns.map (· n)).sum)⟩ := by
  induction columns generalizing f with
  | nil => simp
  | cons g columns ih =>
    have hstep : addScores (nodes.map fun n ↦ ⟨n.name, Word.wrap (f n)⟩)
        (nodes.map fun n ↦ ⟨n.name, Word.wrap (g n)⟩) =
        nodes.map fun n ↦ ⟨n.name, Word.wrap (f n + g n)⟩ := by
      refine List.ext_getElem? fun i ↦ ?_
      rw [getElem?_addScores]
      simp only [List.getElem?_map]
      cases nodes[i]? with
      | none => rfl
      | some n => exact congrArg _ (congrArg _ (Word.add_wrap_wrap ..))
    rw [List.map_cons, List.foldl_cons, hstep, ih]
    simp only [List.map_cons, List.sum_cons, Int.add_assoc]

variable (s : Scheduler) (snapshot : Snapshot) (p : Pod) (nodes : List NodeInfo)

/-- The notes that the plugins find when they score the nodes, and what they give each node. -/
structure Ranks (notes : CycleState) (total : NodeInfo → Int) : Prop where
  passes : PreScoresPass p nodes s.framework.preScores { snapshot } notes
  totals : ∀ n ∈ nodes, TotalScore s.surroundings notes p n s.framework.scores (total n)

variable {s snapshot p nodes}

theorem totalScore_unique {env : Surroundings} {notes : CycleState} {n : NodeInfo}
    {plugins : List WeightedScore} {a b : Int} (ha : TotalScore env notes p n plugins a)
    (hb : TotalScore env notes p n plugins b) : a = b := by
  induction ha generalizing b with
  | nil => cases hb; rfl
  | cons hrun _ _ _ ih =>
    cases hb with
    | cons hrun' _ _ hrest =>
      rw [hrun] at hrun'
      cases hrun'
      rw [ih hrest]

theorem foldl_scoreTable {env : Surroundings} {notes : CycleState} {plugins : List WeightedScore}
    (hnames : (plugins.map (·.name)).Nodup) :
    (scoreTable env notes p plugins nodes).values.foldl addScores (nodes.map fun n ↦ ⟨n.name, 0⟩) =
      nodes.map fun n ↦ ⟨n.name, Word.wrap (plugins.map (worth env notes p n)).sum⟩ := by
  let rows := plugins.map fun plugin ↦
    (plugin.name, nodes.map fun n ↦
      (⟨n.name, Word.wrap (worth env notes p n plugin)⟩ : NodeScore))
  have hkeys : (rows.map (·.1)).Nodup := by
    have hmap : rows.map (·.1) = plugins.map (·.name) := List.map_map
    rwa [hmap]
  have hcolumns : rows.map (·.2) =
      (plugins.map fun plugin n ↦ worth env notes p n plugin).map fun g ↦
        nodes.map fun n ↦ (⟨n.name, Word.wrap (g n)⟩ : NodeScore) := by
    simp only [rows, List.map_map]
    rfl
  have hstart : (nodes.map fun n ↦ (⟨n.name, 0⟩ : NodeScore)) =
      nodes.map fun n ↦ ⟨n.name, Word.wrap 0⟩ := rfl
  rw [scoreTable, (Table.values_ofList_perm hkeys).foldl_eq, hcolumns, hstart, foldl_addScores]
  simp only [List.map_map, Function.comp_def, Int.zero_add]

variable (s snapshot p nodes) in
/-- Either the nodes are ranked by their totals, or the attempt fails, which is when a plugin fails
to prepare or to score. -/
theorem prioritizeNodes_cases (hnames : (s.framework.scores.map (·.name)).Nodup) :
    (∃ notes total, s.Ranks snapshot p nodes notes total ∧
      s.prioritizeNodes snapshot p nodes =
        .ok (nodes.map fun n ↦ ⟨n.name, Word.wrap (total n)⟩)) ∨
    (¬ ∃ notes total, s.Ranks snapshot p nodes notes total) ∧
      ∃ detail, s.prioritizeNodes snapshot p nodes = .error (.plugin detail) := by
  rcases hpre : runPreScores s.framework.preScores { snapshot } p nodes with ⟨status, notes⟩
  by_cases hok : status.isSuccess = true
  · have hpass : PreScoresPass p nodes s.framework.preScores { snapshot } notes := by
      have h : (runPreScores s.framework.preScores { snapshot } p nodes).1.isSuccess = true := by
        rw [hpre]
        exact hok
      have hrun := pass_of_runPreScores h
      rwa [hpre] at hrun
    have hstart : Sound s.surroundings notes p s.framework.scores nodes
        (start s.framework.scores nodes) := start_sound
    have hend := steps_sound hstart (inTurn s.framework.scores.length nodes.length)
    rcases hend.result_cases inTurn_isFinished with ⟨hall, hresult⟩ | ⟨failure, hresult, hfailed⟩
    · refine .inl ⟨notes, fun n ↦ (s.framework.scores.map (worth s.surroundings notes p n)).sum,
        ⟨hpass, fun n hn ↦ totalScore_of_evaluates _ _ _ (hall n hn)⟩, ?_⟩
      rw [prioritizeNodes, hpre]
      simp only [hok, if_true, runScores, hresult, foldl_scoreTable hnames]
    · refine .inr ⟨?_, failure.message, ?_⟩
      · rintro ⟨notes', total, hpass', htotals⟩
        have hsame := runPreScores_of_pass hpass'
        rw [hpre] at hsame
        obtain ⟨n, hn, plugin, hplugin, herr⟩ := hfailed
        obtain ⟨x, hx⟩ := (htotals n hn).evaluates _ _ _ plugin hplugin
        rw [← (Prod.mk.inj hsame).2, herr] at hx
        cases hx
      · rw [prioritizeNodes, hpre]
        simp only [hok, if_true, runScores, hresult]
  · refine .inr ⟨?_, status.message, ?_⟩
    · rintro ⟨notes', total, hpass', _⟩
      have hsame := runPreScores_of_pass hpass'
      rw [hpre] at hsame
      rw [(Prod.mk.inj hsame).1] at hok
      exact hok rfl
    · rw [prioritizeNodes, hpre]
      simp only [hok, Bool.false_eq_true, if_false]

end PodPlacement.Scheduler
