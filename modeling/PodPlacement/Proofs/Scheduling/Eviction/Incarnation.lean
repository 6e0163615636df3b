import PodPlacement.Proofs.Orchestrator.Memory
import PodPlacement.Proofs.Scheduling.Eviction.Order

/-!
Which incarnation of a workload an eviction removes. The deletion goes by the key, so it takes
whatever pod has the key by then, be it the one that was nominated or one that came in its place.
-/

namespace PodPlacement

namespace Memory

variable {m m' m'' : Memory}

def incarnation? (m : Memory) (key : String) : Option (Option String) :=
  (m.cluster.pods.get? key).map (·.metadata.uid)

/-- Nothing was deleted, and every key is taken by the same incarnation as before. -/
structure Keeps (m m' : Memory) : Prop where
  deletions : m'.deletions = m.deletions
  incarnations : ∀ key, m'.incarnation? key = m.incarnation? key

theorem Keeps.refl (m : Memory) : m.Keeps m := ⟨rfl, fun _ ↦ rfl⟩

theorem Keeps.trans (h : m.Keeps m') (h' : m'.Keeps m'') : m.Keeps m'' :=
  ⟨h'.deletions.trans h.deletions, fun key ↦ (h'.incarnations key).trans (h.incarnations key)⟩

theorem Keeps.of_pods (hpods : m'.cluster.pods = m.cluster.pods)
    (hdeletions : m'.deletions = m.deletions) : m.Keeps m' := by
  refine ⟨hdeletions, fun key ↦ ?_⟩
  rw [incarnation?, hpods]
  rfl

/-- A pod may be changed in place as long as it keeps its UID. -/
theorem Keeps.put {key : String} {stored changed : Pod}
    (hstored : m.cluster.pods.get? key = some stored)
    (hpods : m'.cluster.pods = m.cluster.pods.insert key changed)
    (huid : changed.metadata.uid = stored.metadata.uid)
    (hdeletions : m'.deletions = m.deletions) : m.Keeps m' := by
  refine ⟨hdeletions, fun other ↦ ?_⟩
  unfold incarnation?
  rw [hpods, Table.get?_insert]
  split
  · next heq => rw [heq, hstored, Option.map_some, Option.map_some, huid]
  · rfl

/-! ### One call -/

theorem updateWorkloadStatus_keeps (m : Memory) (p : Pod) :
    m.Keeps (m.updateWorkloadStatus p).2 := by
  unfold updateWorkloadStatus
  split
  · exact .refl m
  · dsimp only
    split
    · exact .of_pods rfl rfl
    · next stored hstored => exact .put (m := m) hstored rfl rfl rfl

theorem bindPod_keeps (m : Memory) (p : Pod) (node : String) : m.Keeps (m.bindPod p node).2 := by
  unfold bindPod
  split
  · exact .refl m
  · split
    · exact .refl m
    · split
      · exact .refl m
      · dsimp only
        split
        · exact .of_pods rfl rfl
        · next stored hstored => exact .put (m := m) hstored rfl rfl rfl

theorem updateNodeStatus_keeps (m : Memory) (n : Node) : m.Keeps (m.updateNodeStatus n).2 := by
  rcases m.updateNodeStatus_cases n with ⟨stored, haccepts⟩ | ⟨_, faults, hfailed⟩
  · rw [haccepts.update_eq]
    exact .of_pods rfl rfl
  · rw [hfailed]
    exact .of_pods rfl rfl

theorem perform_keeps (m : Memory) {c : Call} (hc : c.deletes = false) :
    m.Keeps (m.perform c).2 := by
  cases c with
  | getWorkload space name =>
    obtain ⟨_, _, hread⟩ := m.getWorkload_spec (fullKey space name)
    rw [perform, hread]
    exact .of_pods rfl rfl
  | updateWorkloadStatus p => exact m.updateWorkloadStatus_keeps p
  | bind p node => exact m.bindPod_keeps p node
  | deleteWorkload space name options => cases hc
  | getNode name => exact .refl m
  | updateNodeStatus n => exact m.updateNodeStatus_keeps n
  | createEvent e => exact .of_pods rfl rfl

/-- What a deletion takes away: the incarnation that has the key, and no other. -/
structure Removes (m m' : Memory) (key : String) (options : DeleteOptions) : Prop where
  deletions : m'.deletions = m.deletions ++ [(key, options)]
  present : m.incarnation? key ≠ none
  incarnations : ∀ other, m'.incarnation? other = if other = key then none else m.incarnation? other

theorem deleteWorkload_cases (m : Memory) (key : String) (options : DeleteOptions) :
    m.Keeps (m.deleteWorkload key options).2 ∨
      m.Removes (m.deleteWorkload key options).2 key options := by
  unfold deleteWorkload
  split
  · exact .inl (.refl m)
  · split
    · exact .inl (.refl m)
    · next p hstored =>
      refine .inr ⟨rfl, ?_, fun other ↦ ?_⟩
      · rw [incarnation?, hstored]
        nofun
      · unfold incarnation?
        rw [Table.get?_erase]
        split <;> rfl

/-! ### Calls in a row -/

theorem Answers.keeps {trace : List Answered} (h : m.Answers trace m')
    (hdeletes : ∀ a ∈ trace, a.1.deletes = false) : m.Keeps m' := by
  induction trace generalizing m with
  | nil =>
    cases h
    exact .refl _
  | cons a trace ih =>
    obtain ⟨_, hlater⟩ := h
    have hfirst := m.perform_keeps (hdeletes a (List.mem_cons_self ..))
    exact hfirst.trans (ih hlater fun b hb ↦ hdeletes b (List.mem_cons_of_mem _ hb))

theorem Removes.after {key : String} {options : DeleteOptions} (h : m.Keeps m')
    (h' : m'.Removes m'' key options) : m.Removes m'' key options := by
  refine ⟨h.deletions ▸ h'.deletions, h.incarnations key ▸ h'.present, fun other ↦ ?_⟩
  rw [h'.incarnations, h.incarnations]

theorem Removes.before {key : String} {options : DeleteOptions} (h : m.Removes m' key options)
    (h' : m'.Keeps m'') : m.Removes m'' key options := by
  refine ⟨h'.deletions.trans h.deletions, h.present, fun other ↦ ?_⟩
  rw [h'.incarnations, h.incarnations]

/-! ### What is lost -/

def Loses (m m' : Memory) (key : String) (q : Pod) : Prop :=
  m.cluster.pods.get? key = some q ∧ m'.incarnation? key ≠ some q.metadata.uid

theorem Keeps.not_loses (h : m.Keeps m') {key : String} {q : Pod} : ¬ m.Loses m' key q := by
  rintro ⟨hstored, hgone⟩
  apply hgone
  rw [h.incarnations, incarnation?, hstored]
  rfl

theorem Removes.loses_iff {key other : String} {options : DeleteOptions} {q : Pod}
    (h : m.Removes m' key options) :
    m.Loses m' other q ↔ other = key ∧ m.cluster.pods.get? key = some q := by
  constructor
  · rintro ⟨hstored, hgone⟩
    by_cases hkey : other = key
    · exact ⟨hkey, hkey ▸ hstored⟩
    · refine absurd ?_ hgone
      rw [h.incarnations, if_neg hkey, incarnation?, hstored]
      rfl
  · rintro ⟨rfl, hstored⟩
    refine ⟨hstored, ?_⟩
    rw [h.incarnations, if_pos rfl]
    nofun

theorem Removes.exists_loses {key : String} {options : DeleteOptions}
    (h : m.Removes m' key options) : ∃ q, m.Loses m' key q := by
  obtain ⟨uid, huid⟩ := Option.ne_none_iff_exists'.1 h.present
  obtain ⟨q, hstored, _⟩ := Option.map_eq_some_iff.1 huid
  exact ⟨q, h.loses_iff.2 ⟨rfl, hstored⟩⟩

end Memory

namespace Evictor

open Memory

variable {x : Evictor} {e : Eviction} {m m' : Memory} {trace : List Answered}
  {result : Except SchedulingError Unit}

theorem Evicted.shape_deletes (h : Evicted x e trace result) :
    ∃ removal later, trace = ⟨.deleteWorkload e.victimKey.space e.victimKey.name x.deleteOptions,
      removal⟩ :: later ∧ ∀ a ∈ later, a.1.deletes = false := by
  obtain ⟨removal, later, rfl, ⟨_, _, hquiet⟩ |
    ⟨_, looks, _, _, last, rfl, hlooks, _, _, _, hlast⟩⟩ := h.shape
  · exact ⟨removal, later, rfl, fun a ha ↦ (hquiet a ha).1⟩
  · refine ⟨removal, _, rfl, fun a ha ↦ ?_⟩
    rcases List.mem_append.1 ha with ha | ha
    · exact (hlooks a ha).1
    · rcases List.mem_cons.1 ha with rfl | ha
      · rfl
      · exact (hlast a ha).1

/-- A finished eviction deletes nothing, or it deletes once, by the key of the victim. -/
theorem keeps_or_removes (hrun : Run (x.next e) x.begin trace (.finished result))
    (hanswers : m.Answers trace m') : m.Keeps m' ∨
      m.Removes m' (fullKey e.victimKey.space e.victimKey.name) x.deleteOptions := by
  obtain ⟨held, rest, outcome, rfl, hattempts, hends⟩ := updates_of_run hrun
  obtain ⟨between, hheld, hrest⟩ := answers_append.1 hanswers
  have hkept : m.Keeps between := hheld.keeps fun a ha ↦ (hattempts.quiet a ha).1
  by_cases houtcome : outcome = .ok true
  · subst houtcome
    have hevicted : Evicted x e rest result := hends
    obtain ⟨removal, later, rfl, hlater⟩ := hevicted.shape_deletes
    obtain ⟨_, hafter⟩ := hrest
    have hlast := Answers.keeps hafter hlater
    rcases between.deleteWorkload_cases (fullKey e.victimKey.space e.victimKey.name)
      x.deleteOptions with hrefused | hremoved
    · exact .inl (hkept.trans (hrefused.trans hlast))
    · exact .inr (.after hkept (hremoved.before hlast))
  · obtain ⟨rfl, _⟩ := hends.unreserved houtcome
    cases hrest
    exact .inl hkept

/-- An eviction takes at most what is stored under the key of its victim, and takes that whichever
incarnation it is. So it spares all but the nominated one only when it deletes nothing or when the
key had not passed to another. -/
theorem deletes_by_key (hrun : Run (x.next e) x.begin trace (.finished result))
    (hanswers : m.Answers trace m') :
    let key := fullKey e.victimKey.space e.victimKey.name
    (∀ k q, m.Loses m' k q → k = key) ∧
      (m'.deletions = m.deletions ∨
        m'.deletions = m.deletions ++ [(key, x.deleteOptions)] ∧ ∃ q, m.Loses m' key q) ∧
      ((∀ k q, m.Loses m' k q → q.metadata.uid = e.victim.metadata.uid) ↔
        m'.deletions = m.deletions ∨
          ∀ q, m.cluster.pods.get? key = some q → q.metadata.uid = e.victim.metadata.uid) := by
  intro key
  rcases keeps_or_removes hrun hanswers with hkept | hremoved
  · refine ⟨fun k q hlost ↦ absurd hlost hkept.not_loses, .inl hkept.deletions, ?_⟩
    exact iff_of_true (fun k q hlost ↦ absurd hlost hkept.not_loses) (.inl hkept.deletions)
  · have hchanged : m'.deletions ≠ m.deletions := by
      rw [hremoved.deletions]
      simp
    refine ⟨fun k q hlost ↦ (hremoved.loses_iff.1 hlost).1,
      .inr ⟨hremoved.deletions, hremoved.exists_loses⟩, ?_⟩
    constructor
    · intro hspared
      exact .inr fun q hstored ↦ hspared key q (hremoved.loses_iff.2 ⟨rfl, hstored⟩)
    · rintro (hsame | hnominated) k q hlost
      · exact absurd hsame hchanged
      · exact hnominated q (hremoved.loses_iff.1 hlost).2

namespace Recreated

/-! A pod that was nominated as a victim, and one that has come in its place since. -/

def nominated : Pod := { metadata := { name := some "settled", uid := some "old" } }

def successor : Pod := { metadata := { name := some "settled", uid := some "new" } }

def urgent : Pod := { metadata := { name := some "urgent" } }

def host : Node := { metadata := { name := some "n1" } }

def evictor : Evictor := { settings := {}, retry := {} }

def eviction : Eviction :=
  { host := "n1", preemptor := urgent, victim := nominated,
    preemptorKey := ⟨"default", "urgent"⟩, victimKey := ⟨"default", "settled"⟩ }

def memory (stored : Pod) : Memory := holding [host] [urgent, stored]

def driven (stored : Pod) : List Answered × EvictionPhase × Memory :=
  (memory stored).drive (evictor.next eviction) default 20 evictor.begin

theorem driven_spec (stored : Pod) (h : (driven stored).2.1 = .finished (.ok ())) :
    Run (evictor.next eviction) evictor.begin (driven stored).1 (.finished (.ok ())) ∧
      (memory stored).Answers (driven stored).1 (driven stored).2.2 := by
  obtain ⟨hrun, hanswers⟩ :=
    drive_spec (evictor.next eviction) default 20 evictor.begin (memory stored)
  exact ⟨h ▸ hrun, hanswers⟩

end Recreated

open Recreated in
/-- The nominated pod is still there, and it is all that the eviction takes. -/
theorem deletes_by_key_nominated : ∃ m' trace,
    Run (evictor.next eviction) evictor.begin trace (.finished (.ok ())) ∧
      (memory nominated).Answers trace m' ∧ (∃ k q, (memory nominated).Loses m' k q) ∧
      ∀ k q, (memory nominated).Loses m' k q → q.metadata.uid = some "old" := by
  obtain ⟨hrun, hanswers⟩ := driven_spec nominated rfl
  have hdeletions : (driven nominated).2.2.deletions ≠ (memory nominated).deletions := by
    decide +kernel
  have hstored : (memory nominated).incarnation? "default/settled" = some (some "old") := by
    decide +kernel
  obtain ⟨_, hlost, hspared⟩ := deletes_by_key hrun hanswers
  refine ⟨_, _, hrun, hanswers, ?_, hspared.2 (.inr fun q hq ↦ ?_)⟩
  · obtain ⟨_, q, hq⟩ := hlost.resolve_left hdeletions
    exact ⟨_, q, hq⟩
  · obtain ⟨q', hq', huid⟩ := Option.map_eq_some_iff.1 hstored
    cases hq.symm.trans hq'
    exact huid

open Recreated in
/-- Another pod has the key by the time of the deletion, and it is taken in place of the nominated
one. -/
theorem successor_deleted : Eviction.ofPods "n1" urgent nominated = .ok eviction ∧
    (memory successor).Reachable ∧ ∃ m' trace q,
      Run (evictor.next eviction) evictor.begin trace (.finished (.ok ())) ∧
      (memory successor).Answers trace m' ∧ (memory successor).Loses m' "default/settled" q ∧
      q.metadata.uid = some "new" ∧ nominated.metadata.uid = some "old" := by
  obtain ⟨hrun, hanswers⟩ := driven_spec successor rfl
  have hstored : (memory successor).incarnation? "default/settled" = some (some "new") := by
    decide +kernel
  obtain ⟨q, hq, huid⟩ := Option.map_eq_some_iff.1 hstored
  have hgone : (driven successor).2.2.incarnation? "default/settled" = none := by decide +kernel
  refine ⟨rfl, .holding _ _, _, _, q, hrun, hanswers, ⟨hq, ?_⟩, huid, rfl⟩
  rw [hgone]
  nofun

end Evictor

end PodPlacement
