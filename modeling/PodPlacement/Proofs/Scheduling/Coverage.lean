import PodPlacement.Proofs.Scheduling.Decision

/-!
Sampling loses no schedulability: an attempt that looks at a sample finds a node for the pod exactly
when some node of the cluster accepts it, however the nodes are shuffled and whenever results come
in.
-/

namespace PodPlacement.Scheduler

variable {s : Scheduler} {snapshot : Snapshot} {p : Pod} {key : WorkloadKey}
  (fitting freeing : Arrival (NodeInfo × Nat))

variable (s snapshot) in
theorem arrange_cases :
    s.arrange snapshot = (snapshot.nodes, none, s.random) ∨
    ∃ nodes g, nodes.Perm snapshot.nodes ∧ s.arrange snapshot =
      (nodes, some (sampleSize s.settings.samplingPercentage snapshot.nodes.length), g) := by
  unfold arrange
  dsimp only
  split
  · have hperm := shuffle_perm snapshot.nodes s.random
    rcases hshuffle : shuffle snapshot.nodes s.random with ⟨nodes, g⟩
    rw [hshuffle] at hperm
    exact .inr ⟨nodes, g, hperm, rfl⟩
  · exact .inl rfl

theorem accepts_of_mem_viable {n : NodeInfo} (h : n ∈ s.viable snapshot p fitting) :
    n ∈ snapshot.nodes ∧ s.Accepts snapshot p n := by
  unfold viable at h
  rcases arrange_cases s snapshot with harrange | ⟨nodes, g, hperm, harrange⟩
  · rw [harrange, evaluateNodes_none] at h
    obtain ⟨hn, hadmits⟩ := List.mem_filter.1 h
    exact ⟨hn, (s.admits_fits_iff snapshot p).1 hadmits⟩
  · rw [harrange] at h
    obtain ⟨hn, hadmits⟩ :=
      List.mem_filter.1 ((s.evaluateNodes_some_subperm snapshot p fitting nodes fits _).subset h)
    exact ⟨hperm.mem_iff.1 hn, (s.admits_fits_iff snapshot p).1 hadmits⟩

theorem viable_eq_nil_iff :
    s.viable snapshot p fitting = [] ↔ ∀ n ∈ snapshot.nodes, ¬ s.Accepts snapshot p n := by
  have hadmits (n : NodeInfo) :
      s.admits snapshot p fits n = false ↔ ¬ s.Accepts snapshot p n := by
    rw [← s.admits_fits_iff snapshot p, Bool.not_eq_true]
  unfold viable
  rcases arrange_cases s snapshot with harrange | ⟨nodes, g, hperm, harrange⟩
  · rw [harrange, evaluateNodes_none, List.filter_eq_nil_iff]
    simp only [Bool.not_eq_true, hadmits]
  · have hsample := s.evaluateNodes_some_isSample snapshot p fitting nodes fits
      (sampleSize s.settings.samplingPercentage snapshot.nodes.length)
    rw [harrange, hsample.eq_nil_iff _ (one_le_sampleSize _ _)]
    simp only [hadmits, hperm.mem_iff]

/-- A node was found for the pod, though a plugin may then have failed to score it. -/
def FindsNode : Except SchedulingError Decision → Prop
  | .ok decision => decision.victim = none
  | .error (.plugin _) => True
  | .error _ => False

theorem findPreemption_not_findsNode (arrive : Arrival (NodeInfo × Nat)) (nodes : List NodeInfo)
    (target : Option Nat) :
    ¬ FindsNode (s.findPreemption arrive key snapshot p nodes target) := by
  by_cases hmay : s.MayPreempt p
  · rcases findPreemption_tried key arrive nodes target hmay with
      ⟨decision, hchoice, hrun⟩ | ⟨_, why, hrun⟩
    · obtain ⟨n, _, hn⟩ := List.exists_of_findSome?_eq_some hchoice
      obtain ⟨victim, _, rfl⟩ := Option.map_eq_some_iff.1 hn
      rw [hrun]
      exact Option.some_ne_none victim
    · rw [hrun]
      exact id
  · obtain ⟨why, hrun⟩ := findPreemption_refused key arrive nodes target hmay
    rw [hrun]
    exact id

theorem schedule_findsNode_iff (hkey : WorkloadKey.ofPod p = .ok key) :
    FindsNode (s.schedule fitting freeing snapshot p).1 ↔
      ∃ n ∈ snapshot.nodes, s.Accepts snapshot p n := by
  by_cases hempty : snapshot.nodes = []
  · rw [schedule_empty fitting freeing hkey hempty, hempty]
    refine ⟨False.elim, ?_⟩
    rintro ⟨n, hn, _⟩
    exact List.not_mem_nil hn
  by_cases hviable : s.viable snapshot p fitting = []
  · have hnone := (viable_eq_nil_iff fitting).1 hviable
    rw [schedule_without_viable fitting freeing hkey hempty hviable]
    refine ⟨fun h ↦ absurd h (findPreemption_not_findsNode _ _ _), ?_⟩
    rintro ⟨n, hn, haccepts⟩
    exact absurd haccepts (hnone n hn)
  · obtain ⟨n, hn⟩ := List.exists_mem_of_ne_nil _ hviable
    refine iff_of_true ?_ ⟨n, accepts_of_mem_viable fitting hn⟩
    rcases schedule_with_viable fitting freeing hkey hempty hviable with
      ⟨_, _, _, _, _, hrun⟩ | ⟨_, _, hrun⟩
    · rw [hrun]
      rfl
    · rw [hrun]
      trivial

theorem accepts_of_schedule_bind (hkey : WorkloadKey.ofPod p = .ok key) {host : String}
    (h : (s.schedule fitting freeing snapshot p).1 = .ok ⟨host, none⟩) :
    ∃ n ∈ snapshot.nodes, s.Accepts snapshot p n ∧ n.name = host := by
  by_cases hempty : snapshot.nodes = []
  · rw [schedule_empty fitting freeing hkey hempty] at h
    cases h
  by_cases hviable : s.viable snapshot p fitting = []
  · rw [schedule_without_viable fitting freeing hkey hempty hviable] at h
    have hfinds : FindsNode (s.findPreemption freeing key snapshot p (s.arrange snapshot).1
        (s.arrange snapshot).2.1) := by
      rw [h]
      rfl
    exact absurd hfinds (findPreemption_not_findsNode _ _ _)
  rcases schedule_with_viable fitting freeing hkey hempty hviable with
    ⟨scores, e, hscores, he, _, hrun⟩ | ⟨_, _, hrun⟩
  · rw [hrun] at h
    cases h
    have hnames : scores.map (·.name) = (s.viable snapshot p fitting).map (·.name) := by
      rcases prioritizeNodes_names s snapshot p (s.viable snapshot p fitting) with
        ⟨scores', hscores', hnames⟩ | ⟨_, hfailed⟩
      · rw [hscores] at hscores'
        cases hscores'
        exact hnames
      · rw [hscores] at hfailed
        cases hfailed
    have hmem : e.name ∈ (s.viable snapshot p fitting).map (·.name) :=
      hnames ▸ List.mem_map_of_mem he
    obtain ⟨n, hn, hname⟩ := List.mem_map.1 hmem
    obtain ⟨hnode, haccepts⟩ := accepts_of_mem_viable fitting hn
    exact ⟨n, hnode, haccepts, hname⟩
  · rw [hrun] at h
    cases h

variable (s snapshot p) in
/-- A sample consists of admitted nodes at distinct places and is as large as the target and the
nodes allow. So whether a node is found does not depend on the sampling. -/
theorem sampling_complete :
    (∀ (arrive : Arrival (NodeInfo × Nat)) (nodes : List NodeInfo) (test : Table Status → Bool)
      (target : Nat), 1 ≤ target →
      let found := s.evaluateNodes arrive snapshot p nodes (some target) test
      IsSample (s.admits snapshot p test) target nodes found ∧
      (found = [] ↔ ∀ n ∈ nodes, s.admits snapshot p test n = false) ∧
      (nodes.countP (s.admits snapshot p test) ≤ target →
        found.Perm (s.evaluateNodes arrive snapshot p nodes none test))) ∧
    (∀ (arrive : Arrival (NodeInfo × Nat)) (nodes : List NodeInfo) (test : Table Status → Bool),
      s.evaluateNodes arrive snapshot p nodes none test =
        nodes.filter (s.admits snapshot p test)) ∧
    (∀ percentage total, 1 ≤ total →
      1 ≤ sampleSize percentage total ∧ sampleSize percentage total ≤ total) ∧
    ∀ (fitting freeing : Arrival (NodeInfo × Nat)) (key : WorkloadKey),
      WorkloadKey.ofPod p = .ok key →
      let result := (s.schedule fitting freeing snapshot p).1
      (FindsNode result ↔ s.evaluateNodes fitting snapshot p snapshot.nodes none fits ≠ []) ∧
      ∀ host, result = .ok ⟨host, none⟩ →
        ∃ n ∈ snapshot.nodes, s.Accepts snapshot p n ∧ n.name = host := by
  refine ⟨fun arrive nodes test target htarget ↦ ?_, fun arrive nodes test ↦ ?_,
    fun percentage total htotal ↦ ⟨one_le_sampleSize _ _, sampleSize_le htotal⟩,
    fun fitting freeing key hkey ↦ ⟨?_, fun host hbind ↦ ?_⟩⟩
  · have hsample := s.evaluateNodes_some_isSample snapshot p arrive nodes test target
    refine ⟨hsample, hsample.eq_nil_iff _ htarget, fun hfew ↦ ?_⟩
    rw [evaluateNodes_none]
    refine (s.evaluateNodes_some_subperm snapshot p arrive nodes test target).perm_of_length_le ?_
    rw [hsample.length, ← List.countP_eq_length_filter]
    omega
  · exact evaluateNodes_none ..
  · rw [schedule_findsNode_iff fitting freeing hkey, evaluateNodes_none, ne_eq,
      List.filter_eq_nil_iff]
    simp only [admits_fits_iff, not_forall, not_not, exists_prop]
  · exact accepts_of_schedule_bind fitting freeing hkey hbind

namespace Crowded

def samplingScheduler (framework : Framework) : Scheduler :=
  { scheduler framework with settings := { plugins, largeClusterThreshold := 1 } }

end Crowded

theorem sampling_complete_spare : ∃ framework,
    Framework.ofPlugins .inTree Crowded.plugins = .ok framework ∧
    let s := Crowded.samplingScheduler framework
    let nodes := [Crowded.full, Crowded.spare]
    (s.evaluateNodes .inOrder (.ofNodes nodes) Crowded.urgent nodes (some 1) fits).length = 1 ∧
    1 ≤ sampleSize 10 2 ∧
    FindsNode (s.schedule .inOrder .inOrder (.ofNodes nodes) Crowded.urgent).1 := by
  obtain ⟨framework, hset⟩ : ∃ framework,
      Framework.ofPlugins .inTree Crowded.plugins = .ok framework := ⟨_, rfl⟩
  let s := Crowded.samplingScheduler framework
  let nodes := [Crowded.full, Crowded.spare]
  obtain ⟨hsampled, hall, hsize, hfinds⟩ :=
    s.sampling_complete (.ofNodes nodes) Crowded.urgent
  have hcount : nodes.countP (s.admits (.ofNodes nodes) Crowded.urgent fits) = 1 := by
    cases hset
    decide +kernel
  refine ⟨framework, hset, ?_, (hsize 10 2 (by decide)).1, ?_⟩
  · have hlength := (hsampled .inOrder nodes fits 1 (by decide)).1.length
    rwa [hcount] at hlength
  · refine (hfinds .inOrder .inOrder ⟨"default", "urgent"⟩ rfl).1.2 ?_
    rw [hall, ← List.length_pos_iff, ← List.countP_eq_length_filter]
    change 0 < nodes.countP _
    rw [hcount]
    exact Nat.one_pos

end PodPlacement.Scheduler
