import PodPlacement.Proofs.Cluster.NodeInfo
import PodPlacement.Proofs.Framework.Assembly
import PodPlacement.Proofs.Random.Shuffle
import PodPlacement.Proofs.Scheduling.HostChoice
import PodPlacement.Proofs.Scheduling.Ranking

/-!
What an attempt decides, read off the cluster alone: a best node among those that accept the pod,
else the first node that a victim can be evicted from.
-/

namespace PodPlacement.Scheduler

open Framework

variable (s : Scheduler) (snapshot : Snapshot) (p : Pod)

instance (n : NodeInfo) : Decidable (s.Accepts snapshot p n) :=
  decidable_of_iff _ (s.admits_fits_iff snapshot p)

instance (n : NodeInfo) : Decidable (s.Freeable snapshot p n) :=
  decidable_of_iff _ (s.admits_candidate_iff snapshot p)

def accepted : List NodeInfo := snapshot.nodes.filter fun n ↦ s.Accepts snapshot p n

/-- The settings and the pod both allow that another pod is evicted for it. -/
def MayPreempt : Prop :=
  s.settings.disablePreemption = false ∧ p.priority ≠ 0 ∧ p.canPreempt = true

/-- A node of that name accepts the pod and has the highest total of all that do, in 64 bits. -/
def BestHost (host : String) : Prop :=
  ∃ notes total best, s.Ranks snapshot p (s.accepted snapshot p) notes total ∧
    best ∈ s.accepted snapshot p ∧ best.name = host ∧
    ∀ n ∈ s.accepted snapshot p, Word.wrap (total n) ≤ Word.wrap (total best)

/-- The first freeable node with a pod to evict bears that name, and that pod is the victim. -/
def FirstVictim (host : String) (victim : Pod) : Prop :=
  ∃ before n after, snapshot.nodes = before ++ n :: after ∧ s.Freeable snapshot p n ∧
    n.selectVictim p = some victim ∧ n.name = host ∧
    ∀ m ∈ before, s.Freeable snapshot p m → m.selectVictim p = none

variable {s snapshot p}

/-! ### Scores and hosts -/

theorem addScores_names (totals scores : List NodeScore) :
    (addScores totals scores).map (·.name) = totals.map (·.name) := by
  refine List.ext_getElem? fun i ↦ ?_
  simp only [List.getElem?_map, getElem?_addScores, Option.map_map]
  cases totals[i]? with
  | none => rfl
  | some t => cases scores[i]? <;> rfl

theorem foldl_addScores_names (columns : List (List NodeScore)) (totals : List NodeScore) :
    (columns.foldl addScores totals).map (·.name) = totals.map (·.name) := by
  induction columns generalizing totals with
  | nil => rfl
  | cons scores columns ih => rw [List.foldl_cons, ih, addScores_names]

variable (s snapshot p) in
/-- Each node gets a score under its own name, or a plugin fails. -/
theorem prioritizeNodes_names (nodes : List NodeInfo) :
    (∃ scores, s.prioritizeNodes snapshot p nodes = .ok scores ∧
      scores.map (·.name) = nodes.map (·.name)) ∨
    ∃ detail, s.prioritizeNodes snapshot p nodes = .error (.plugin detail) := by
  unfold prioritizeNodes
  rcases runPreScores s.framework.preScores { snapshot } p nodes with ⟨status, notes⟩
  dsimp only
  split
  · split
    · next perPlugin _ =>
      refine .inl ⟨_, rfl, ?_⟩
      rw [foldl_addScores_names, List.map_map]
      rfl
    · exact .inr ⟨_, rfl⟩
  · exact .inr ⟨_, rfl⟩

/-! ### The course of an attempt -/

variable (s snapshot p) in
def viable (fitting : Arrival (NodeInfo × Nat)) : List NodeInfo :=
  s.evaluateNodes fitting snapshot p (s.arrange snapshot).1 (s.arrange snapshot).2.1 fits

variable {key : WorkloadKey} (fitting freeing : Arrival (NodeInfo × Nat))

theorem schedule_empty (hkey : WorkloadKey.ofPod p = .ok key) (hempty : snapshot.nodes = []) :
    (s.schedule fitting freeing snapshot p).1 =
      .error (.unschedulable key.text "no nodes available") := by
  simp only [schedule, hkey, hempty, List.isEmpty_nil, if_true]

section

/-! Publishing a snapshot and drawing leave every judgement as it is. -/

variable (shown : Snapshot) (g : Generator)

theorem arrange_published :
    ({ s with published := shown } : Scheduler).arrange snapshot = s.arrange snapshot := rfl

theorem evaluateNodes_published (arrive : Arrival (NodeInfo × Nat)) (nodes : List NodeInfo)
    (target : Option Nat) (test : Table Status → Bool) :
    ({ s with published := shown, random := g } : Scheduler).evaluateNodes arrive snapshot p nodes
      target test = s.evaluateNodes arrive snapshot p nodes target test := rfl

theorem prioritizeNodes_published (nodes : List NodeInfo) :
    ({ s with published := shown, random := g } : Scheduler).prioritizeNodes snapshot p nodes =
      s.prioritizeNodes snapshot p nodes := rfl

theorem findPreemption_published (arrive : Arrival (NodeInfo × Nat)) (nodes : List NodeInfo)
    (target : Option Nat) :
    ({ s with published := shown, random := g } : Scheduler).findPreemption arrive key snapshot p
      nodes target = s.findPreemption arrive key snapshot p nodes target := rfl

end

theorem schedule_eq (hkey : WorkloadKey.ofPod p = .ok key) (hne : snapshot.nodes ≠ []) :
    (s.schedule fitting freeing snapshot p).1 =
      match s.viable snapshot p fitting with
      | [] => s.findPreemption freeing key snapshot p (s.arrange snapshot).1
          (s.arrange snapshot).2.1
      | viable =>
        match s.prioritizeNodes snapshot p viable with
        | .error e => .error e
        | .ok scores =>
          match (selectHost Generator.below (s.arrange snapshot).2.2 scores).1 with
          | none => .error (.internal "no score produced for viable nodes")
          | some host => .ok { host } := by
  have hsome : snapshot.nodes.isEmpty = false := by rwa [List.isEmpty_eq_false_iff]
  rcases harrange : s.arrange snapshot with ⟨nodes, target, g⟩
  simp only [schedule, viable, hkey, hsome, Bool.false_eq_true, if_false, arrange_published,
    evaluateNodes_published, prioritizeNodes_published, findPreemption_published, harrange]
  cases s.evaluateNodes fitting snapshot p nodes target fits with
  | nil => rfl
  | cons n rest =>
    cases hscores : s.prioritizeNodes snapshot p (n :: rest) with
    | error e => simp only [hscores]
    | ok scores =>
      rcases hselect : selectHost Generator.below g scores with ⟨host, g'⟩
      cases host <;> simp only [hscores, hselect]

theorem schedule_without_viable (hkey : WorkloadKey.ofPod p = .ok key)
    (hne : snapshot.nodes ≠ []) (hviable : s.viable snapshot p fitting = []) :
    (s.schedule fitting freeing snapshot p).1 =
      s.findPreemption freeing key snapshot p (s.arrange snapshot).1 (s.arrange snapshot).2.1 := by
  rw [schedule_eq fitting freeing hkey hne, hviable]

/-- With viable nodes, the attempt ends at one that is scored best or with the plugin's failure. -/
theorem schedule_with_viable (hkey : WorkloadKey.ofPod p = .ok key) (hne : snapshot.nodes ≠ [])
    (hviable : s.viable snapshot p fitting ≠ []) :
    (∃ scores e, s.prioritizeNodes snapshot p (s.viable snapshot p fitting) = .ok scores ∧
      e ∈ scores ∧ (∀ f ∈ scores, f.score ≤ e.score) ∧
      (s.schedule fitting freeing snapshot p).1 = .ok ⟨e.name, none⟩) ∨
    ∃ detail, s.prioritizeNodes snapshot p (s.viable snapshot p fitting) =
        .error (.plugin detail) ∧
      (s.schedule fitting freeing snapshot p).1 = .error (.plugin detail) := by
  have hrun := schedule_eq (s := s) fitting freeing hkey hne
  cases hfound : s.viable snapshot p fitting with
  | nil => exact absurd hfound hviable
  | cons n rest =>
    rw [hfound] at hrun
    rcases prioritizeNodes_names s snapshot p (n :: rest) with
      ⟨scores, hscores, hnames⟩ | ⟨detail, hfailed⟩
    · have hscored : scores ≠ [] := by
        rintro rfl
        cases hnames
      obtain ⟨e, he, hbest, hselect⟩ :=
        selectHost_best Generator.below_lt (s.arrange snapshot).2.2 hscored
      simp only [hscores, hselect] at hrun
      exact .inl ⟨scores, e, hscores, he, hbest, hrun⟩
    · simp only [hfailed] at hrun
      exact .inr ⟨detail, hfailed, hrun⟩

/-! ### Preemption -/

section

variable (key) (arrive : Arrival (NodeInfo × Nat)) (nodes : List NodeInfo) (target : Option Nat)

theorem findPreemption_refused (h : ¬ s.MayPreempt p) :
    ∃ detail, s.findPreemption arrive key snapshot p nodes target =
      .error (.unschedulable key.text detail) := by
  unfold findPreemption
  by_cases hdisabled : s.settings.disablePreemption = true
  · simp only [hdisabled, if_true]
    exact ⟨_, rfl⟩
  · by_cases hpriority : p.priority = 0
    · simp only [hdisabled, hpriority, if_true, Bool.false_eq_true, if_false]
      exact ⟨_, rfl⟩
    · have hnever : p.canPreempt = false := by
        by_contra hcan
        exact h ⟨Bool.eq_false_iff.2 hdisabled, hpriority, Bool.eq_true_of_not_eq_false hcan⟩
      simp only [hdisabled, hpriority, hnever, Bool.not_false, if_true, Bool.false_eq_true,
        if_false]
      exact ⟨_, rfl⟩

theorem findPreemption_tried (h : s.MayPreempt p) :
    (∃ decision, nominate p
        (s.evaluateNodes arrive snapshot p nodes target isPreemptionCandidate) = some decision ∧
      s.findPreemption arrive key snapshot p nodes target = .ok decision) ∨
    nominate p (s.evaluateNodes arrive snapshot p nodes target isPreemptionCandidate) = none ∧
      ∃ detail, s.findPreemption arrive key snapshot p nodes target =
        .error (.preemptionExhausted key.text detail) := by
  obtain ⟨hdisabled, hpriority, hcan⟩ := h
  unfold findPreemption
  simp only [hdisabled, hpriority, hcan, Bool.not_true, Bool.false_eq_true, if_false]
  cases s.evaluateNodes arrive snapshot p nodes target isPreemptionCandidate with
  | nil => exact .inr ⟨rfl, _, rfl⟩
  | cons n rest =>
    cases hchoice : nominate p (n :: rest) with
    | none => exact .inr ⟨rfl, _, by simp only [hchoice]; rfl⟩
    | some decision => exact .inl ⟨decision, rfl, by simp only [hchoice]⟩

end

theorem nominate_filter (test : NodeInfo → Bool) (nodes : List NodeInfo) :
    nominate p (nodes.filter test) = nodes.findSome? fun n ↦
      if test n then (n.selectVictim p).map fun victim ↦ ⟨n.name, some victim⟩ else none := by
  unfold nominate
  induction nodes with
  | nil => rfl
  | cons n rest ih =>
    by_cases htest : test n = true
    · rw [List.filter_cons_of_pos htest, List.findSome?_cons, List.findSome?_cons, ih,
        if_pos htest]
    · rw [List.filter_cons_of_neg htest, List.findSome?_cons, ih, if_neg htest]

/-- Of the candidates in the order of the nodes, the first one with a victim is nominated. -/
theorem nominate_eq_some_iff {decision : Decision} :
    nominate p (snapshot.nodes.filter (s.admits snapshot p isPreemptionCandidate)) =
        some decision ↔
      ∃ host victim, decision = ⟨host, some victim⟩ ∧ s.FirstVictim snapshot p host victim := by
  rw [nominate_filter, List.findSome?_eq_some_iff]
  constructor
  · rintro ⟨before, n, after, hnodes, hchoice, hbefore⟩
    by_cases htest : s.admits snapshot p isPreemptionCandidate n = true
    · rw [if_pos htest, Option.map_eq_some_iff] at hchoice
      obtain ⟨victim, hvictim, rfl⟩ := hchoice
      refine ⟨n.name, victim, rfl, before, n, after, hnodes,
        (s.admits_candidate_iff snapshot p).1 htest, hvictim, rfl, fun m hm hfree ↦ ?_⟩
      have hnone := hbefore m hm
      rw [if_pos ((s.admits_candidate_iff snapshot p).2 hfree)] at hnone
      exact Option.map_eq_none_iff.1 hnone
    · rw [if_neg htest] at hchoice
      cases hchoice
  · rintro ⟨host, victim, rfl, before, n, after, hnodes, hfree, hvictim, rfl, hbefore⟩
    refine ⟨before, n, after, hnodes, ?_, fun m hm ↦ ?_⟩
    · rw [if_pos ((s.admits_candidate_iff snapshot p).2 hfree), hvictim, Option.map_some]
    · split
      · next htest =>
        rw [hbefore m hm ((s.admits_candidate_iff snapshot p).1 htest), Option.map_none]
      · rfl

theorem FirstVictim.unique {host host' : String} {victim victim' : Pod}
    (h : s.FirstVictim snapshot p host victim) (h' : s.FirstVictim snapshot p host' victim') :
    host = host' ∧ victim = victim' := by
  have hfirst := nominate_eq_some_iff.2 ⟨host, victim, rfl, h⟩
  have hsecond := nominate_eq_some_iff.2 ⟨host', victim', rfl, h'⟩
  rw [hfirst] at hsecond
  cases hsecond
  exact ⟨rfl, rfl⟩

theorem nominate_victim {p : Pod} {candidates : List NodeInfo} {decision : Decision}
    (h : nominate p candidates = some decision) :
    ∃ victim key, decision.victim = some victim ∧ WorkloadKey.ofPod victim = .ok key := by
  obtain ⟨n, _, hvictim⟩ := List.exists_of_findSome?_eq_some h
  obtain ⟨victim, hselect, rfl⟩ := Option.map_eq_some_iff.1 hvictim
  obtain ⟨_, key, hkey, _⟩ := NodeInfo.selectVictim_spec hselect
  exact ⟨victim, key, rfl, hkey⟩

/-- How any attempt can end, whether it looks at all the nodes or at a sample. -/
inductive Ending (s : Scheduler) (snapshot : Snapshot) (p : Pod) :
    Except SchedulingError Decision → Prop
  | unnamed (cause : ClusterError) : Ending s snapshot p (.error (.cluster cause))
  | unschedulable (workload detail : String) :
      Ending s snapshot p (.error (.unschedulable workload detail))
  | exhausted (workload detail : String) :
      Ending s snapshot p (.error (.preemptionExhausted workload detail))
  | nominated (candidates : List NodeInfo) (decision : Decision) :
      nominate p candidates = some decision → Ending s snapshot p (.ok decision)
  | bound (host : String) : Ending s snapshot p (.ok ⟨host, none⟩)
  | failed (nodes : List NodeInfo) (detail : String) :
      s.prioritizeNodes snapshot p nodes = .error (.plugin detail) →
      Ending s snapshot p (.error (.plugin detail))

theorem schedule_ending : Ending s snapshot p (s.schedule fitting freeing snapshot p).1 := by
  cases hkey : WorkloadKey.ofPod p with
  | error cause =>
    simp only [schedule, hkey]
    exact .unnamed cause
  | ok key =>
    by_cases hempty : snapshot.nodes = []
    · rw [schedule_empty fitting freeing hkey hempty]
      exact .unschedulable _ _
    · by_cases hviable : s.viable snapshot p fitting = []
      · rw [schedule_without_viable fitting freeing hkey hempty hviable]
        by_cases hmay : s.MayPreempt p
        · rcases findPreemption_tried key freeing (s.arrange snapshot).1 (s.arrange snapshot).2.1
            hmay with ⟨decision, hnominated, hrun⟩ | ⟨_, detail, hrun⟩
          · rw [hrun]
            exact .nominated _ decision hnominated
          · rw [hrun]
            exact .exhausted _ detail
        · obtain ⟨detail, hrun⟩ := findPreemption_refused key freeing (s.arrange snapshot).1
            (s.arrange snapshot).2.1 hmay
          rw [hrun]
          exact .unschedulable _ detail
      · rcases schedule_with_viable fitting freeing hkey hempty hviable with
          ⟨_, e, _, _, _, hrun⟩ | ⟨detail, hfailed, hrun⟩
        · rw [hrun]
          exact .bound e.name
        · rw [hrun]
          exact .failed _ detail hfailed

/-- A pod that is to be evicted has a name. -/
theorem schedule_victim {s : Scheduler} {fitting freeing : Arrival (NodeInfo × Nat)}
    {snapshot : Snapshot} {p victim : Pod} {decision : Decision}
    (h : (s.schedule fitting freeing snapshot p).1 = .ok decision)
    (hvictim : decision.victim = some victim) : ∃ key, WorkloadKey.ofPod victim = .ok key := by
  have hending : Ending s snapshot p (.ok decision) :=
    h ▸ schedule_ending (s := s) (p := p) fitting freeing
  cases hending with
  | nominated _ _ hnominated =>
    obtain ⟨named, key, hnamed, hkey⟩ := nominate_victim hnominated
    cases hvictim.symm.trans hnamed
    exact ⟨key, hkey⟩
  | bound _ => cases hvictim

/-! ### Looking at all the nodes -/

/-- How an attempt on all the nodes can end, each end with the conditions under which it comes. -/
inductive Outcome (s : Scheduler) (snapshot : Snapshot) (p : Pod) (key : WorkloadKey) :
    Except SchedulingError Decision → Prop
  | empty (detail : String) : snapshot.nodes = [] →
      Outcome s snapshot p key (.error (.unschedulable key.text detail))
  | refused (detail : String) : snapshot.nodes ≠ [] → s.accepted snapshot p = [] →
      ¬ s.MayPreempt p → Outcome s snapshot p key (.error (.unschedulable key.text detail))
  | nominated (host : String) (victim : Pod) : s.accepted snapshot p = [] → s.MayPreempt p →
      s.FirstVictim snapshot p host victim → Outcome s snapshot p key (.ok ⟨host, some victim⟩)
  | exhausted (detail : String) : snapshot.nodes ≠ [] → s.accepted snapshot p = [] →
      s.MayPreempt p → (∀ host victim, ¬ s.FirstVictim snapshot p host victim) →
      Outcome s snapshot p key (.error (.preemptionExhausted key.text detail))
  | bound (host : String) : s.BestHost snapshot p host →
      Outcome s snapshot p key (.ok ⟨host, none⟩)
  | failed (detail : String) : s.accepted snapshot p ≠ [] →
      (¬ ∃ notes total, s.Ranks snapshot p (s.accepted snapshot p) notes total) →
      Outcome s snapshot p key (.error (.plugin detail))

theorem accepted_eq_nil (h : snapshot.nodes = []) : s.accepted snapshot p = [] := by
  rw [accepted, h, List.filter_nil]

theorem BestHost.accepted_ne_nil {host : String} (h : s.BestHost snapshot p host) :
    s.accepted snapshot p ≠ [] := by
  obtain ⟨_, _, best, _, hbest, _⟩ := h
  exact List.ne_nil_of_mem hbest

namespace Outcome

variable {result : Except SchedulingError Decision}

theorem bound_iff (h : Outcome s snapshot p key result) :
    (∃ host, result = .ok ⟨host, none⟩) ↔ s.accepted snapshot p ≠ [] ∧
      ∃ notes total, s.Ranks snapshot p (s.accepted snapshot p) notes total := by
  constructor
  · rintro ⟨host, rfl⟩
    cases h with
    | bound _ hbest =>
      obtain ⟨notes, total, best, hranks, _⟩ := id hbest
      exact ⟨hbest.accepted_ne_nil, notes, total, hranks⟩
  · rintro ⟨hsome, hranks⟩
    cases h with
    | empty _ hempty => exact absurd (accepted_eq_nil hempty) hsome
    | refused _ _ haccepted _ => exact absurd haccepted hsome
    | nominated _ _ haccepted _ _ => exact absurd haccepted hsome
    | exhausted _ _ haccepted _ _ => exact absurd haccepted hsome
    | bound host _ => exact ⟨host, rfl⟩
    | failed _ _ hnone => exact absurd hranks hnone

end Outcome

namespace Crowded

/-! A node whose only core is taken and an urgent pod that wants a core; and two nodes with a core
to spare and a pod that prefers the fast one. -/

def plugins : PluginSet where
  preFilter := [{ name := Plugins.NodeResourcesFit.name }]
  filter := [{ name := Plugins.NodeResourcesFit.name }]
  score := [{ name := Plugins.NodeAffinity.name, weight := 2 }]

def scheduler (framework : Framework) : Scheduler where
  framework
  settings := { plugins }
  usage := .fresh Usage.defaultThreshold
  random := .ofSeed 0

def core : ResourceList := .ofList [("cpu", "1000m")]

def wantsCore : Container := { resources := some { requests := some core } }

def settled : Pod where
  metadata := { name := some "settled" }
  spec := some { containers := [wantsCore] }
  status := some { phase := some Pod.runningPhase }

def urgent : Pod where
  metadata := { name := some "urgent" }
  spec := some { containers := [wantsCore], priority := some 10 }

def full : NodeInfo where
  node := { metadata := { name := some "n1" }, status := some { allocatable := some core } }
  pods := [settled]

def spare : NodeInfo where
  node := { metadata := { name := some "n2" }, status := some { allocatable := some core } }
  pods := []

theorem selectVictim_full : full.selectVictim urgent = some settled := by
  have heligible : full.isEligibleVictim urgent settled = true := by decide +kernel
  change ([settled].mergeSort _).find? _ = _
  rw [List.mergeSort_singleton, List.find?_cons_of_pos heligible]

end Crowded

end PodPlacement.Scheduler
