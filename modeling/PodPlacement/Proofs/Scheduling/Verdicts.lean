import PodPlacement.Proofs.Scheduling.Sampling
import PodPlacement.Scheduling.Basic

/-!
Which nodes accept a pod, and which would once a pod is evicted, said without the scheduler's tests;
and what the evaluation of a list of nodes finds of either kind.
-/

namespace PodPlacement

/-- Every plugin in turn succeeds, and each finds the notes that those before it have left. -/
inductive EachSucceeds {α : Type} (run : α → CycleState → Status × CycleState) :
    List α → CycleState → CycleState → Prop
  | nil (notes : CycleState) : EachSucceeds run [] notes notes
  | cons {plugin : α} {rest : List α} {notes between final : CycleState} {status : Status} :
      run plugin notes = (status, between) → status.isSuccess = true →
      EachSucceeds run rest between final → EachSucceeds run (plugin :: rest) notes final

namespace Framework

abbrev PreFiltersPass (p : Pod) : List (Named PreFilter) → CycleState → CycleState → Prop :=
  EachSucceeds fun plugin notes ↦ plugin.run notes p

abbrev PreScoresPass (p : Pod) (nodes : List NodeInfo) :
    List (Named PreScore) → CycleState → CycleState → Prop :=
  EachSucceeds fun plugin notes ↦ plugin.run notes p nodes

theorem runPreFilters_of_pass {p : Pod} {plugins : List (Named PreFilter)}
    {notes final : CycleState} (h : PreFiltersPass p plugins notes final) :
    runPreFilters plugins notes p = (.success, final) := by
  induction h with
  | nil => rfl
  | cons hrun hok _ ih => rw [runPreFilters, hrun]; simpa only [hok, if_true] using ih

theorem pass_of_runPreFilters {p : Pod} {plugins : List (Named PreFilter)} {notes : CycleState}
    (h : (runPreFilters plugins notes p).1.isSuccess = true) :
    PreFiltersPass p plugins notes (runPreFilters plugins notes p).2 := by
  induction plugins generalizing notes with
  | nil => exact .nil notes
  | cons plugin rest ih =>
    rcases hrun : plugin.run notes p with ⟨status, between⟩
    by_cases hok : status.isSuccess = true
    · simp only [runPreFilters, hrun, hok, if_true] at h ⊢
      exact .cons hrun hok (ih h)
    · by_cases hverdict : status.isUnschedulable = true
      · simp only [runPreFilters, hrun, hok, hverdict, if_true, Bool.false_eq_true, if_false] at h
      · simp only [runPreFilters, hrun, hok, hverdict, Bool.false_eq_true, if_false] at h
        cases h

theorem runPreScores_of_pass {p : Pod} {nodes : List NodeInfo} {plugins : List (Named PreScore)}
    {notes final : CycleState} (h : PreScoresPass p nodes plugins notes final) :
    runPreScores plugins notes p nodes = (.success, final) := by
  induction h with
  | nil => rfl
  | cons hrun hok _ ih => rw [runPreScores, hrun]; simpa only [hok, if_true] using ih

theorem pass_of_runPreScores {p : Pod} {nodes : List NodeInfo} {plugins : List (Named PreScore)}
    {notes : CycleState} (h : (runPreScores plugins notes p nodes).1.isSuccess = true) :
    PreScoresPass p nodes plugins notes (runPreScores plugins notes p nodes).2 := by
  induction plugins generalizing notes with
  | nil => exact .nil notes
  | cons plugin rest ih =>
    rcases hrun : plugin.run notes p nodes with ⟨status, between⟩
    by_cases hok : status.isSuccess = true
    · simp only [runPreScores, hrun, hok, if_true] at h ⊢
      exact .cons hrun hok (ih h)
    · simp only [runPreScores, hrun, hok, Bool.false_eq_true, if_false] at h
      cases h

end Framework

namespace Scheduler

open Framework

variable (s : Scheduler) (snapshot : Snapshot) (p : Pod)

/-- The prefilters all succeed, and no filter has anything against the node. -/
def Accepts (n : NodeInfo) : Prop :=
  ∃ notes, PreFiltersPass p s.framework.preFilters { snapshot } notes ∧
    (runFilters s.framework.filters s.surroundings notes p n).entries = []

/-- The prefilters all succeed, and the one verdict against the node is that it lacks resources. -/
def Freeable (n : NodeInfo) : Prop :=
  ∃ notes status, PreFiltersPass p s.framework.preFilters { snapshot } notes ∧
    (runFilters s.framework.filters s.surroundings notes p n).entries =
      [(Plugins.NodeResourcesFit.name, status)] ∧ status.isUnschedulable = true

theorem admits_iff {test : Table Status → Bool} {n : NodeInfo} :
    s.admits snapshot p test n = true ↔
      ∃ notes, PreFiltersPass p s.framework.preFilters { snapshot } notes ∧
        test (runFilters s.framework.filters s.surroundings notes p n) = true := by
  unfold admits verdicts?
  constructor
  · intro h
    rcases hrun : runPreFilters s.framework.preFilters { snapshot } p with ⟨status, notes⟩
    rw [hrun] at h
    by_cases hok : status.isSuccess = true
    · simp only [hok, if_true, Option.any_some] at h
      have hpass : PreFiltersPass p s.framework.preFilters { snapshot }
          (runPreFilters s.framework.preFilters { snapshot } p).2 :=
        pass_of_runPreFilters (by rw [hrun]; exact hok)
      rw [hrun] at hpass
      exact ⟨notes, hpass, h⟩
    · simp only [hok, Bool.false_eq_true, if_false, Option.any_none] at h
  · rintro ⟨notes, hpass, htest⟩
    rw [runPreFilters_of_pass hpass]
    simpa only [Status.isSuccess, Status.success, BEq.rfl, if_true, Option.any_some] using htest

theorem admits_fits_iff {n : NodeInfo} :
    s.admits snapshot p fits n = true ↔ s.Accepts snapshot p n := by
  rw [admits_iff, Accepts]
  simp only [fits, Table.isEmpty, List.isEmpty_iff]

theorem isPreemptionCandidate_iff {verdicts : Table Status} :
    isPreemptionCandidate verdicts = true ↔
      ∃ status, verdicts.entries = [(Plugins.NodeResourcesFit.name, status)] ∧
        status.isUnschedulable = true := by
  rw [isPreemptionCandidate, Bool.and_eq_true, beq_iff_eq, Option.any_eq_true]
  constructor
  · rintro ⟨hsize, status, hget, hverdict⟩
    obtain ⟨e, he⟩ := List.length_eq_one_iff.1 hsize
    have hmem := Table.get?_eq_some_iff.1 hget
    rw [he, List.mem_singleton] at hmem
    exact ⟨status, hmem ▸ he, hverdict⟩
  · rintro ⟨status, hentries, hverdict⟩
    refine ⟨by rw [Table.size, hentries]; rfl, status, ?_, hverdict⟩
    rw [Table.get?_eq_some_iff, hentries]
    exact List.mem_singleton.2 rfl

theorem admits_candidate_iff {n : NodeInfo} :
    s.admits snapshot p isPreemptionCandidate n = true ↔ s.Freeable snapshot p n := by
  rw [admits_iff, Freeable]
  simp only [isPreemptionCandidate_iff]
  constructor
  · rintro ⟨notes, hpass, status, hentries, hverdict⟩
    exact ⟨notes, status, hpass, hentries, hverdict⟩
  · rintro ⟨notes, status, hpass, hentries, hverdict⟩
    exact ⟨notes, hpass, status, hentries, hverdict⟩

/-! ### Lists of nodes -/

variable (arrive : Arrival (NodeInfo × Nat)) (nodes : List NodeInfo) (test : Table Status → Bool)

theorem evaluateNodes_none :
    s.evaluateNodes arrive snapshot p nodes none test =
      nodes.filter (s.admits snapshot p test) := examineAll_eq _ _ _

theorem evaluateNodes_some_subperm (target : Nat) :
    (s.evaluateNodes arrive snapshot p nodes (some target) test).Subperm
      (nodes.filter (s.admits snapshot p test)) := sample_zipIdx_subperm _ _ _ _

theorem evaluateNodes_some_isSample (target : Nat) :
    IsSample (s.admits snapshot p test) target nodes
      (s.evaluateNodes arrive snapshot p nodes (some target) test) := sample_zipIdx_isSample _ _ _ _

end Scheduler

end PodPlacement
