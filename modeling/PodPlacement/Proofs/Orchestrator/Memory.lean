import Mathlib.Data.Nat.Basic
import Mathlib.Order.Basic
import PodPlacement.Orchestrator.Memory
import PodPlacement.Proofs.Orchestrator.Run

/-!
The states that an orchestrator in memory can come to, and what its calls leave as it was. A node
changes only by a status update that names its present version, and no version is given out twice.
-/

namespace PodPlacement.Memory

/-- The states that come of adding objects, of calls, and of telling it how to fail. -/
inductive Reachable : Memory → Prop
  | empty : Reachable {}
  | addNode {m : Memory} (n : Node) : Reachable m → Reachable (m.addNode n)
  | addPod {m m' : Memory} (p : Pod) : Reachable m → m.addPod p = .ok m' → Reachable m'
  | perform {m : Memory} (c : Call) : Reachable m → Reachable (m.perform c).2
  | disturb {m : Memory} (faults : Faults) : Reachable m → Reachable { m with faults }

def holding (nodes : List Node) (pods : List Pod) : Memory :=
  pods.foldl (fun m p ↦ (m.addPod p).toOption.getD m) (nodes.foldl addNode {})

theorem Reachable.holding (nodes : List Node) (pods : List Pod) :
    (Memory.holding nodes pods).Reachable := by
  refine List.foldlRecOn pods _ ?_ fun m hm p _ ↦ ?_
  · exact List.foldlRecOn nodes _ .empty fun m hm n _ ↦ .addNode n hm
  · cases hadd : m.addPod p with
    | ok m' => exact .addPod p hm hadd
    | error cause => exact hm

/-- Every node is filed under its own name, with a version that was given out before. -/
def Sound (m : Memory) : Prop :=
  ∀ name n, m.cluster.nodes.get? name = some n →
    n.name = name ∧ ∃ k ≤ m.version, n.metadata.version = some (toString k)

variable {m : Memory}

theorem get?_putNode (m : Memory) (name : String) (n : Node) (other : String) :
    (m.putNode name n).cluster.nodes.get? other =
      if other = name then some n else m.cluster.nodes.get? other :=
  Table.get?_insert ..

/-! ### Updates of nodes -/

/-- What the node `stored` becomes by an update to `n`: its status is replaced, and its version is
the next one. -/
def written (m : Memory) (n stored : Node) : Node :=
  { stored with status := n.status, metadata := m.bump.stamp stored.metadata }

/-- What makes the orchestrator accept an update to `n` in place of `stored`. -/
structure Accepts (m : Memory) (n stored : Node) : Prop where
  quiet : m.faults.nodeConflicts = 0
  present : m.cluster.nodes.get? n.name = some stored
  current : n.metadata.version = none ∨ n.metadata.version = stored.metadata.version

theorem conditions_written (m : Memory) (n stored : Node) :
    (m.written n stored).conditions = n.conditions := rfl

theorem version_written (m : Memory) (n stored : Node) :
    (m.written n stored).metadata.version = some (toString (m.version + 1)) := rfl

theorem Accepts.update_eq {n stored : Node} (h : m.Accepts n stored) :
    m.updateNodeStatus n =
      (.ok (m.written n stored), m.bump.putNode n.name (m.written n stored)) := by
  have hquiet : ¬ 0 < m.faults.nodeConflicts := by
    rw [h.quiet]
    exact Nat.lt_irrefl 0
  have hcurrent :
      (n.metadata.version.isSome && n.metadata.version != stored.metadata.version) = false := by
    rcases h.current with hnone | hsame
    · rw [hnone, Option.isSome_none, Bool.false_and]
    · rw [bne_eq_false_iff_eq.2 hsame, Bool.and_false]
  unfold updateNodeStatus
  simp only [hquiet, if_false, h.present, hcurrent, Bool.false_eq_true]
  rfl

/-- An update is accepted, or it fails and at most uses up one of the faults. -/
theorem updateNodeStatus_cases (m : Memory) (n : Node) :
    (∃ stored, m.Accepts n stored) ∨
      ∃ cause faults, m.updateNodeStatus n = (.error cause, { m with faults }) := by
  by_cases haccepts : ∃ stored, m.Accepts n stored
  · exact .inl haccepts
  right
  unfold updateNodeStatus
  split
  · exact ⟨_, _, rfl⟩
  · next hquiet =>
    split
    · exact ⟨_, m.faults, rfl⟩
    · next stored hstored =>
      split
      · exact ⟨_, m.faults, rfl⟩
      · next hcurrent =>
        refine absurd ⟨stored, Nat.eq_zero_of_not_pos hquiet, hstored, ?_⟩ haccepts
        rw [Bool.and_eq_true, Option.isSome_iff_ne_none, bne_iff_ne] at hcurrent
        exact Classical.or_iff_not_imp_left.2 fun hnone ↦
          not_not.1 fun hstale ↦ hcurrent ⟨hnone, hstale⟩

theorem accepts_of_ok {n answer : Node} (h : (m.updateNodeStatus n).1 = .ok answer) :
    ∃ stored, m.Accepts n stored := by
  rcases m.updateNodeStatus_cases n with haccepts | ⟨cause, faults, hfailed⟩
  · exact haccepts
  · rw [hfailed] at h
    cases h

theorem faults_of_error {n : Node} {cause : ClusterError}
    (h : (m.updateNodeStatus n).1 = .error cause) :
    ∃ faults, (m.updateNodeStatus n).2 = { m with faults } := by
  rcases m.updateNodeStatus_cases n with ⟨stored, haccepts⟩ | ⟨_, faults, hfailed⟩
  · rw [haccepts.update_eq] at h
    cases h
  · exact ⟨faults, congrArg Prod.snd hfailed⟩

/-! ### Reads -/

theorem getNode_ok {name : String} {n : Node} (h : m.getNode name = .ok n) :
    m.cluster.nodes.get? name = some n := by
  unfold getNode at h
  split at h
  · next hstored =>
    cases h
    exact hstored
  · cases h

theorem getNode_eq {name : String} {n : Node} (h : m.cluster.nodes.get? name = some n) :
    m.getNode name = .ok n := by
  unfold getNode
  rw [h]

/-! ### Calls about pods -/

/-- Reading a pod changes nothing but how often pods can still be read in vain or after their
deletion. -/
theorem getWorkload_spec (m : Memory) (key : String) :
    ∃ lingering readFailures, (m.getWorkload key).2 =
      { m with lingering, faults := { m.faults with readFailures } } := by
  unfold getWorkload
  split
  · exact ⟨_, _, rfl⟩
  · split
    · exact ⟨m.lingering, m.faults.readFailures, rfl⟩
    · exact ⟨_, m.faults.readFailures, rfl⟩
    · exact ⟨m.lingering, m.faults.readFailures, rfl⟩

theorem updateWorkloadStatus_spec (m : Memory) (p : Pod) :
    ∃ pods version, m.version ≤ version ∧ (m.updateWorkloadStatus p).2 =
      { m with version, cluster := { m.cluster with pods } } := by
  unfold updateWorkloadStatus
  split
  · exact ⟨m.cluster.pods, m.version, Nat.le_refl _, rfl⟩
  · dsimp only
    split
    · exact ⟨m.cluster.pods, m.version + 1, Nat.le_succ _, rfl⟩
    · exact ⟨_, m.version + 1, Nat.le_succ _, rfl⟩

/-- A pod that is bound was there, and is there afterwards on its node. -/
theorem bindPod_ok {p : Pod} {node : String} {key : WorkloadKey}
    (hkey : WorkloadKey.ofPod p = .ok key) (h : (m.bindPod p node).1 = .ok ()) :
    ∃ stored bound, m.cluster.pods.get? key.text = some stored ∧ bound.nodeName? = some node ∧
      (m.bindPod p node).2 =
        { m.bump.putPod key.text bound with bindings := m.bindings ++ [(key.text, node)] } := by
  unfold bindPod at h ⊢
  simp only [hkey] at h ⊢
  split at h
  · cases h
  · next hbinds =>
    split at h
    · cases h
    · next hnode =>
      simp only [hbinds, hnode, Bool.false_eq_true, if_false]
      have hpods : m.bump.cluster.pods = m.cluster.pods := rfl
      cases hstored : m.cluster.pods.get? key.text with
      | none =>
        simp only [hpods, hstored] at h
        cases h
      | some stored =>
        simp only [hpods, hstored]
        exact ⟨stored, _, rfl, rfl, rfl⟩

theorem bindPod_error {p : Pod} {node : String} {cause : ClusterError}
    (h : (m.bindPod p node).1 = .error cause) :
    ∃ version, m.version ≤ version ∧ (m.bindPod p node).2 = { m with version } := by
  unfold bindPod at h ⊢
  split
  · exact ⟨m.version, Nat.le_refl _, rfl⟩
  · next key hkey =>
    simp only [hkey] at h
    split
    · exact ⟨m.version, Nat.le_refl _, rfl⟩
    · next hbinds =>
      split
      · exact ⟨m.version, Nat.le_refl _, rfl⟩
      · next hnode =>
        simp only [hbinds, hnode, Bool.false_eq_true, if_false] at h
        dsimp only at h ⊢
        split
        · exact ⟨m.version + 1, Nat.le_succ _, rfl⟩
        · next hstored =>
          simp only [hstored] at h
          cases h

/-- After a deletion, or when there was nothing to delete, no pod has the key. -/
theorem deleteWorkload_gone {key : String} {options : DeleteOptions}
    (h : (m.deleteWorkload key options).1 = .ok () ∨
      ∃ cause, (m.deleteWorkload key options).1 = .error cause ∧ cause.isNotFound = true) :
    ∃ lingering deletions, (m.deleteWorkload key options).2 =
      { m with
        lingering, deletions, cluster := { m.cluster with pods := m.cluster.pods.erase key } } := by
  unfold deleteWorkload at h ⊢
  split at h
  · rcases h with h | ⟨_, h, hfound⟩
    · cases h
    · cases h
      cases hfound
  · next hdeletes =>
    simp only [hdeletes, Bool.false_eq_true, if_false]
    cases hstored : m.cluster.pods.get? key with
    | some p => exact ⟨_, _, rfl⟩
    | none =>
      have hsame : m.cluster.pods.erase key = m.cluster.pods := by
        refine Table.ext_get? fun other ↦ ?_
        rw [Table.get?_erase]
        split
        · next heq => rw [heq, hstored]
        · rfl
      refine ⟨m.lingering, m.deletions, ?_⟩
      rw [hsame]

theorem deleteWorkload_refused {key : String} {options : DeleteOptions} {cause : ClusterError}
    (h : (m.deleteWorkload key options).1 = .error cause) :
    (m.deleteWorkload key options).2 = m := by
  unfold deleteWorkload at h ⊢
  split
  · rfl
  · next hdeletes =>
    simp only [hdeletes, Bool.false_eq_true, if_false] at h
    split
    · rfl
    · next hstored =>
      simp only [hstored] at h
      cases h

/-! ### Any call -/

/-- Whatever is called, the nodes stay as they are unless an update of one is accepted. -/
theorem perform_cases (m : Memory) (c : Call) :
    ((m.perform c).2.cluster.nodes = m.cluster.nodes ∧ m.version ≤ (m.perform c).2.version) ∨
      ∃ n stored, c = .updateNodeStatus n ∧ m.Accepts n stored := by
  cases c with
  | getWorkload space name =>
    obtain ⟨_, _, hread⟩ := m.getWorkload_spec (fullKey space name)
    rw [perform, hread]
    exact .inl ⟨rfl, Nat.le_refl _⟩
  | updateWorkloadStatus p =>
    obtain ⟨_, version, hversion, hupdate⟩ := m.updateWorkloadStatus_spec p
    rw [perform, hupdate]
    exact .inl ⟨rfl, hversion⟩
  | bind p node =>
    left
    rw [perform]
    cases hanswer : (m.bindPod p node).1 with
    | error cause =>
      obtain ⟨version, hversion, hbind⟩ := bindPod_error hanswer
      rw [hbind]
      exact ⟨rfl, hversion⟩
    | ok answer =>
      cases hkey : WorkloadKey.ofPod p with
      | error cause =>
        unfold bindPod at hanswer
        simp only [hkey] at hanswer
        cases hanswer
      | ok key =>
        obtain ⟨_, _, _, _, hbind⟩ := bindPod_ok hkey hanswer
        rw [hbind]
        exact ⟨rfl, Nat.le_succ _⟩
  | deleteWorkload space name options =>
    left
    rw [perform]
    cases hanswer : (m.deleteWorkload (fullKey space name) options).1 with
    | error cause =>
      rw [deleteWorkload_refused hanswer]
      exact ⟨rfl, Nat.le_refl _⟩
    | ok answer =>
      obtain ⟨_, _, hdelete⟩ := deleteWorkload_gone (.inl hanswer)
      rw [hdelete]
      exact ⟨rfl, Nat.le_refl _⟩
  | getNode name => exact .inl ⟨rfl, Nat.le_refl _⟩
  | updateNodeStatus n =>
    rcases m.updateNodeStatus_cases n with ⟨stored, haccepts⟩ | ⟨_, _, hfailed⟩
    · exact .inr ⟨n, stored, rfl, haccepts⟩
    · rw [perform, hfailed]
      exact .inl ⟨rfl, Nat.le_refl _⟩
  | createEvent e => exact .inl ⟨rfl, Nat.le_refl _⟩

/-! ### Nodes under their names -/

theorem Sound.of_nodes {m' : Memory} (h : m.Sound) (hnodes : m'.cluster.nodes = m.cluster.nodes)
    (hversion : m.version ≤ m'.version) : m'.Sound := by
  intro name n hn
  rw [hnodes] at hn
  obtain ⟨hname, k, hk, hstamp⟩ := h name n hn
  exact ⟨hname, k, hk.trans hversion, hstamp⟩

theorem Sound.put {name : String} {n : Node} (h : m.Sound) (hname : n.name = name)
    (hversion : n.metadata.version = some (toString (m.version + 1))) :
    (m.bump.putNode name n).Sound := by
  intro other stored hstored
  rw [get?_putNode] at hstored
  split at hstored
  · next heq =>
    cases hstored
    exact ⟨hname.trans heq.symm, m.version + 1, Nat.le_refl _, hversion⟩
  · obtain ⟨hfiled, k, hk, hstamp⟩ := h other stored hstored
    exact ⟨hfiled, k, hk.trans (Nat.le_succ _), hstamp⟩

theorem Sound.perform (h : m.Sound) (c : Call) : (m.perform c).2.Sound := by
  rcases m.perform_cases c with ⟨hnodes, hversion⟩ | ⟨n, stored, rfl, haccepts⟩
  · exact h.of_nodes hnodes hversion
  · rw [Memory.perform, haccepts.update_eq]
    exact h.put (h n.name stored haccepts.present).1 (m.version_written n stored)

theorem Reachable.sound (h : m.Reachable) : m.Sound := by
  induction h with
  | empty => exact fun _ _ hn ↦ nomatch hn
  | addNode n _ ih => exact ih.put rfl rfl
  | @addPod m m' p _ hadd ih =>
    unfold Memory.addPod at hadd
    cases hkey : WorkloadKey.ofPod p with
    | error cause =>
      rw [hkey] at hadd
      cases hadd
    | ok key =>
      rw [hkey] at hadd
      cases hadd
      exact ih.of_nodes rfl (Nat.le_succ _)
  | perform c _ ih => exact ih.perform c
  | disturb faults _ ih => exact ih.of_nodes rfl (Nat.le_refl _)

/-! ### Calls in a row -/

/-- The calls of the trace, made one after the other by the only client, are answered as it says. -/
def Answers : Memory → List Answered → Memory → Prop
  | m, [], m' => m' = m
  | m, ⟨c, answer⟩ :: trace, m' => answer = (m.perform c).1 ∧ Answers (m.perform c).2 trace m'

theorem answers_append {m' : Memory} {xs ys : List Answered} :
    m.Answers (xs ++ ys) m' ↔ ∃ between, m.Answers xs between ∧ between.Answers ys m' := by
  induction xs generalizing m with
  | nil => exact ⟨fun h ↦ ⟨m, rfl, h⟩, fun ⟨_, rfl, h⟩ ↦ h⟩
  | cons a xs ih =>
    constructor
    · rintro ⟨hanswer, h⟩
      obtain ⟨between, hxs, hys⟩ := ih.1 h
      exact ⟨between, ⟨hanswer, hxs⟩, hys⟩
    · rintro ⟨between, ⟨hanswer, hxs⟩, hys⟩
      exact ⟨hanswer, ih.2 ⟨between, hxs, hys⟩⟩

/-- An activity alone with the orchestrator, for so many steps: what it calls, what it comes to, and
what the orchestrator comes to. No time passes. -/
def drive {σ : Type} (next : Timestamp → σ → Action σ) (now : Timestamp) :
    Nat → σ → Memory → List Answered × σ × Memory
  | 0, a, m => ([], a, m)
  | steps + 1, a, m =>
    match next now a with
    | .call c resume =>
      let (trace, last) := drive next now steps (resume (m.perform c).1) (m.perform c).2
      (⟨c, (m.perform c).1⟩ :: trace, last)
    | .sleep _ a => drive next now steps a m
    | .done => ([], a, m)

theorem drive_spec {σ : Type} (next : Timestamp → σ → Action σ) (now : Timestamp) (steps : Nat)
    (a : σ) (m : Memory) :
    Run next a (m.drive next now steps a).1 (m.drive next now steps a).2.1 ∧
      m.Answers (m.drive next now steps a).1 (m.drive next now steps a).2.2 := by
  induction steps generalizing a m with
  | zero => exact ⟨.stay a, rfl⟩
  | succ steps ih =>
    unfold drive
    split
    · next c resume hnext =>
      obtain ⟨hrun, hanswers⟩ := ih (resume (m.perform c).1) (m.perform c).2
      exact ⟨.call now _ hnext hrun, rfl, hanswers⟩
    · next d b hnext =>
      obtain ⟨hrun, hanswers⟩ := ih b m
      exact ⟨.sleep now hnext hrun, hanswers⟩
    · exact ⟨.stay a, rfl⟩

end PodPlacement.Memory
