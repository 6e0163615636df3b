import PodPlacement.Proofs.Orchestrator.Memory
import PodPlacement.Proofs.Scheduling.Eviction.Order

/-!
What an eviction leaves behind when nobody else talks to the orchestrator. Whatever fails on the
way, the node that it reserved is as it was, and at most the victim and the preemptor are not.
-/

namespace PodPlacement

namespace NodeCondition

def victim? (c : NodeCondition) : Option String :=
  if c.type = Node.preemptionType then c.message else none

end NodeCondition

namespace Node

def victims (conditions : List NodeCondition) : List String := conditions.filterMap (·.victim?)

section

variable {victim : String} {c : NodeCondition} {conditions before after : List NodeCondition}

theorem reservesFor_iff : reservesFor victim c = true ↔ c.victim? = some victim := by
  unfold reservesFor NodeCondition.victim?
  rw [Bool.and_eq_true, beq_iff_eq, beq_iff_eq]
  split
  · next htype => exact and_iff_right htype
  · next htype => exact iff_of_false (fun h ↦ htype h.1) nofun

theorem any_reservesFor_iff :
    conditions.any (reservesFor victim) = true ↔ victim ∈ victims conditions := by
  rw [List.any_eq_true, victims, List.mem_filterMap]
  exact exists_congr fun c ↦ and_congr_right fun _ ↦ reservesFor_iff

theorem victims_append : victims (before ++ after) = victims before ++ victims after :=
  List.filterMap_append

theorem filter_unreserved (h : victim ∉ victims conditions) :
    conditions.filter (fun d ↦ !reservesFor victim d) = conditions := by
  refine List.filter_eq_self.2 fun d hd ↦ ?_
  rw [Bool.not_eq_true', Bool.eq_false_iff]
  exact fun hreserves ↦ h (List.mem_filterMap.2 ⟨d, hd, reservesFor_iff.1 hreserves⟩)

/-- Where no other condition is for the victim, one condition goes with it. -/
theorem filter_reserved (hc : c.victim? = some victim) (hbefore : victim ∉ victims before)
    (hafter : victim ∉ victims after) :
    (before ++ c :: after).filter (fun d ↦ !reservesFor victim d) = before ++ after := by
  rw [List.filter_append, filter_unreserved hbefore, List.filter_cons_of_neg,
    filter_unreserved hafter]
  rw [reservesFor_iff.2 hc]
  nofun

end

def inVersion (n : Node) (version : Option String) : Node :=
  { n with metadata := { n.metadata with version } }

/-- The same node in another version, with its conditions listed also when there are none. -/
def Restored (n n' : Node) : Prop :=
  ∃ version, n' = (n.withConditions n.conditions).inVersion version

theorem release?_reserved {n : Node} {victim : String} {c : NodeCondition}
    (version : Option String) (hfree : victim ∉ victims n.conditions)
    (hc : c.victim? = some victim) :
    ((n.withConditions (n.conditions ++ [c])).inVersion version).release? victim =
      some ((n.withConditions n.conditions).inVersion version) := by
  have hthere : (n.conditions ++ [c]).any (reservesFor victim) = true := by
    rw [List.any_append, List.any_cons, reservesFor_iff.2 hc, Bool.true_or, Bool.or_true]
  have hgone : (n.conditions ++ [c]).filter (fun d ↦ !reservesFor victim d) = n.conditions :=
    (filter_reserved hc hfree List.not_mem_nil).trans (List.append_nil _)
  have hconditions : ((n.withConditions (n.conditions ++ [c])).inVersion version).conditions =
      n.conditions ++ [c] := rfl
  unfold release?
  rw [hconditions, if_pos hthere, hgone]
  rfl

theorem free_of_reserve? {n changed : Node} {victim reservation : String} {now : Timestamp}
    (h : n.reserve? victim reservation now = some changed) : victim ∉ victims n.conditions := by
  unfold reserve? at h
  rw [← any_reservesFor_iff]
  intro hany
  rw [if_pos hany] at h
  cases h

end Node

namespace Evictor

open Memory

variable {x : Evictor} {e : Eviction} {m m' : Memory} {trace : List Answered} {n : Node}

/-- The host of the eviction is `n` and the one condition that reserves it, and the next update of
it will be accepted. -/
structure Holds (e : Eviction) (n : Node) (m : Memory) : Prop where
  quiet : m.faults.nodeConflicts = 0
  name : n.name = e.host
  free : e.victimKey.text ∉ Node.victims n.conditions
  host : ∃ now version, m.cluster.nodes.get? e.host =
    some ((n.withConditions (n.conditions ++ [reservationCondition e now])).inVersion version)

theorem Holds.of_nodes (h : Holds e n m) (hnodes : m'.cluster.nodes = m.cluster.nodes)
    (hquiet : m'.faults.nodeConflicts = m.faults.nodeConflicts) : Holds e n m' :=
  ⟨hquiet.trans h.quiet, h.name, h.free, hnodes ▸ h.host⟩

theorem victim?_reservationCondition (e : Eviction) (now : Timestamp) :
    (reservationCondition e now).victim? = some e.victimKey.text := rfl

/-! ### Reserving -/

theorem Attempt.reserve_answered {outcome : Except ClusterError Bool} (hm : m.Sound)
    (h : Attempt e .reserve trace outcome) (hanswers : m.Answers trace m') :
    (outcome ≠ .ok true ∧ ∃ faults, m' = { m with faults }) ∨
      outcome = .ok true ∧ ∃ n n', Holds e n m' ∧ m.cluster.nodes.get? e.host = some n ∧
        m' = m.bump.putNode e.host n' := by
  cases h with
  | unread cause =>
    obtain ⟨_, hsame⟩ := hanswers
    exact .inl ⟨nofun, m.faults, hsame⟩
  | unchanged n now _ =>
    obtain ⟨_, hsame⟩ := hanswers
    exact .inl ⟨nofun, m.faults, hsame⟩
  | written n changed now answer hedit =>
    obtain ⟨hread, hwrite, hend⟩ := hanswers
    have hn := getNode_ok hread.symm
    cases answer with
    | error cause =>
      obtain ⟨faults, hfailed⟩ := faults_of_error hwrite.symm
      exact .inl ⟨nofun, faults, hend.trans hfailed⟩
    | ok _ =>
      have hname : n.name = e.host := (hm e.host n hn).1
      obtain ⟨stored, haccepts⟩ : ∃ stored, m.Accepts changed stored := accepts_of_ok hwrite.symm
      have hname' : changed.name = e.host := by
        rw [edit_reserve hedit]
        exact hname
      have hpresent := haccepts.present
      rw [hname', hn] at hpresent
      cases hpresent
      have hm' : m' = m.bump.putNode e.host (m.written changed n) := by
        rw [hend, ← hname']
        exact congrArg Prod.snd haccepts.update_eq
      subst hm'
      refine .inr ⟨rfl, n, _, ⟨haccepts.quiet, hname, Node.free_of_reserve? hedit, now,
        some (toString (m.version + 1)), ?_⟩, hn, rfl⟩
      rw [get?_putNode, if_pos rfl, edit_reserve hedit]
      rfl

/-- Attempts to reserve leave the host reserved, or they fail and nothing has changed. -/
theorem Attempts.reserve_answered {s : RetryState} {result : Except SchedulingError Bool}
    (hm : m.Sound) (h : Attempts x e .reserve s trace result) (hanswers : m.Answers trace m') :
    (result ≠ .ok true → ∃ faults, m' = { m with faults }) ∧
      (result = .ok true → ∃ n n' faults, Holds e n m' ∧ m.cluster.nodes.get? e.host = some n ∧
        m' = Memory.putNode (bump { m with faults }) e.host n') := by
  induction h generalizing m with
  | last hattempt hjudge =>
    rcases hattempt.reserve_answered hm hanswers with
      ⟨hne, hsame⟩ | ⟨rfl, n, n', hholds, hn, rfl⟩
    · exact ⟨fun _ ↦ hsame, fun hok ↦ absurd (RetryConfig.judge_ok (hok ▸ hjudge)) hne⟩
    · cases hjudge
      exact ⟨fun hne ↦ absurd rfl hne, fun _ ↦ ⟨n, n', m.faults, hholds, hn, rfl⟩⟩
  | again hattempt hjudge _ ih =>
    obtain ⟨between, hfirst, hlater⟩ := answers_append.1 hanswers
    obtain ⟨cause, rfl⟩ := RetryConfig.judge_rest hjudge
    rcases hattempt.reserve_answered hm hfirst with ⟨_, faults, rfl⟩ | ⟨hok, _⟩
    · exact ih (m := { m with faults }) (hm.of_nodes rfl (Nat.le_refl _)) hlater
    · cases hok

/-! ### Releasing -/

/-- Releasing the node that is held takes away the condition, and the first attempt succeeds. -/
theorem Released.answered {result : Except SchedulingError Unit} (h : Released x e result trace)
    (hanswers : m.Answers trace m') (hheld : Holds e n m) :
    ∃ n', n.Restored n' ∧ m' = m.bump.putNode e.host n' := by
  obtain ⟨since, version, hhost⟩ := hheld.host
  have hread := getNode_eq hhost
  have hrelease := Node.release?_reserved version hheld.free
    (victim?_reservationCondition e since)
  obtain ⟨outcome, hattempts⟩ := h
  have hwritten {calls : List Answered} {outcome : Except ClusterError Bool} {m' : Memory}
      (hattempt : Attempt e (.release result) calls outcome) (hanswers : m.Answers calls m') :
      outcome = .ok true ∧ ∃ n', n.Restored n' ∧ m' = m.bump.putNode e.host n' := by
    cases hattempt with
    | unread cause =>
      obtain ⟨hcause, _⟩ := hanswers
      cases hcause.trans hread
    | unchanged n now hedit =>
      obtain ⟨hn, _⟩ := hanswers
      cases hn.trans hread
      cases hedit.symm.trans hrelease
    | written n changed now answer hedit =>
      obtain ⟨hn, hwrite, hend⟩ := hanswers
      cases hn.trans hread
      cases hedit.symm.trans hrelease
      have haccepts : m.Accepts ((n.withConditions n.conditions).inVersion version)
          ((n.withConditions (n.conditions ++ [reservationCondition e since])).inVersion version) :=
        ⟨hheld.quiet, (congrArg m.cluster.nodes.get? hheld.name).trans hhost, .inr rfl⟩
      have hok : answer = .ok _ := hwrite.trans (congrArg Prod.fst haccepts.update_eq)
      refine ⟨by rw [hok]; rfl, _, ⟨some (toString (m.version + 1)), rfl⟩, ?_⟩
      rw [hend, ← hheld.name]
      exact congrArg Prod.snd haccepts.update_eq
  cases hattempts with
  | last hattempt hjudge => exact (hwritten hattempt hanswers).2
  | again hattempt hjudge _ =>
    obtain ⟨between, hfirst, _⟩ := answers_append.1 hanswers
    obtain ⟨cause, rfl⟩ := RetryConfig.judge_rest hjudge
    cases (hwritten hattempt hfirst).1

/-! ### From the reservation to the release -/

variable {result : Except SchedulingError Unit}

/-- How an eviction that holds `n` in `m` ends: the node is restored, and either the preemptor is
bound to it and nothing else happened to the pods, or nothing did. -/
structure Settled (e : Eviction) (n : Node) (m m' : Memory)
    (result : Except SchedulingError Unit) : Prop where
  nodes : ∃ n', n.Restored n' ∧ m'.cluster.nodes = m.cluster.nodes.insert e.host n'
  pods : (result = .ok () ∧ m'.bindings = m.bindings ++ [(e.preemptorKey.text, e.host)] ∧
      ∃ stored bound, m.cluster.pods.get? e.preemptorKey.text = some stored ∧
        bound.nodeName? = some e.host ∧
        m'.cluster.pods = m.cluster.pods.insert e.preemptorKey.text bound) ∨
    (∃ cause, result = .error (e.failure cause)) ∧ m'.bindings = m.bindings ∧
      m'.cluster.pods = m.cluster.pods

theorem Settled.of_cluster {m₁ : Memory} (h : Settled e n m₁ m' result)
    (hcluster : m₁.cluster = m.cluster) (hbindings : m₁.bindings = m.bindings) :
    Settled e n m m' result := by
  obtain ⟨hnodes, hpods⟩ := h
  rw [hcluster] at hnodes hpods
  rw [hbindings] at hpods
  exact ⟨hnodes, hpods⟩

theorem Placed.answered (h : Placed x e trace result)
    (hkey : WorkloadKey.ofPod e.preemptor = .ok e.preemptorKey) (hanswers : m.Answers trace m')
    (hheld : Holds e n m) : Settled e n m m' result := by
  cases h with
  | bound hreleased =>
    obtain ⟨hbind, hlater⟩ := hanswers
    obtain ⟨stored, bound, hstored, hnode, hbound⟩ := bindPod_ok hkey hbind.symm
    rw [perform, hbound] at hlater
    obtain ⟨n', hrestored, rfl⟩ := hreleased.answered hlater (hheld.of_nodes rfl rfl)
    exact ⟨⟨n', hrestored, rfl⟩, .inl ⟨rfl, rfl, stored, bound, hstored, hnode, rfl⟩⟩
  | refused cause hreleased =>
    obtain ⟨hbind, hlater⟩ := hanswers
    obtain ⟨version, _, hbound⟩ := bindPod_error hbind.symm
    rw [perform, hbound] at hlater
    obtain ⟨n', hrestored, rfl⟩ := hreleased.answered hlater (hheld.of_nodes rfl rfl)
    exact ⟨⟨n', hrestored, rfl⟩, .inr ⟨⟨_, rfl⟩, rfl, rfl⟩⟩

theorem Awaited.answered (h : Awaited x e trace result)
    (hkey : WorkloadKey.ofPod e.preemptor = .ok e.preemptorKey) (hanswers : m.Answers trace m')
    (hheld : Holds e n m) : Settled e n m m' result := by
  induction h generalizing m with
  | gone _ hplaced =>
    obtain ⟨_, hlater⟩ := hanswers
    obtain ⟨_, _, hread⟩ := m.getWorkload_spec (fullKey e.victimKey.space e.victimKey.name)
    rw [perform, hread] at hlater
    exact (hplaced.answered hkey hlater (hheld.of_nodes rfl rfl)).of_cluster rfl rfl
  | present _ _ ih =>
    obtain ⟨_, hlater⟩ := hanswers
    obtain ⟨_, _, hread⟩ := m.getWorkload_spec (fullKey e.victimKey.space e.victimKey.name)
    rw [perform, hread] at hlater
    exact (ih hlater (hheld.of_nodes rfl rfl)).of_cluster rfl rfl

/-- Once the node is held, the victim is deleted before anything else happens to the pods, or it
cannot be deleted and nothing happens to them. -/
theorem Evicted.answered (h : Evicted x e trace result)
    (hkey : WorkloadKey.ofPod e.preemptor = .ok e.preemptorKey) (hanswers : m.Answers trace m')
    (hheld : Holds e n m) :
    ∃ pods, (pods = m.cluster.pods ∧ result ≠ .ok () ∨
        pods = m.cluster.pods.erase (fullKey e.victimKey.space e.victimKey.name)) ∧
      Settled e n { m with cluster := { m.cluster with pods } } m' result := by
  cases h with
  | @removed answer _ _ hremoves hawaited =>
    obtain ⟨hdelete, hlater⟩ := hanswers
    have hgone : (m.deleteWorkload (fullKey e.victimKey.space e.victimKey.name)
        x.deleteOptions).1 = .ok () ∨ ∃ cause, (m.deleteWorkload
          (fullKey e.victimKey.space e.victimKey.name) x.deleteOptions).1 = .error cause ∧
            cause.isNotFound = true := by
      cases answer with
      | ok _ => exact .inl hdelete.symm
      | error cause => exact .inr ⟨cause, hdelete.symm, hremoves⟩
    obtain ⟨_, _, hdeleted⟩ := deleteWorkload_gone hgone
    rw [perform, hdeleted] at hlater
    exact ⟨_, .inr rfl, (hawaited.answered hkey hlater (hheld.of_nodes rfl rfl)).of_cluster rfl rfl⟩
  | refused cause _ hreleased =>
    obtain ⟨hdelete, hlater⟩ := hanswers
    rw [perform, deleteWorkload_refused hdelete.symm] at hlater
    obtain ⟨n', hrestored, rfl⟩ := hreleased.answered hlater hheld
    refine ⟨m.cluster.pods, .inl ⟨rfl, fun hok ↦ ?_⟩, ⟨n', hrestored, rfl⟩,
      .inr ⟨⟨_, rfl⟩, rfl, rfl⟩⟩
    cases hok

theorem fullKey_eq_text {key : WorkloadKey} (h : key.space ≠ "") :
    fullKey key.space key.name = key.text := by
  unfold WorkloadKey.text
  rw [if_neg fun hempty ↦ h (String.isEmpty_iff.1 hempty)]
  rfl

/-- What an eviction that has ended leaves of the pods `m` had when the node was reserved. -/
theorem Settled.pods_apart {pods : Table Pod}
    (h : Settled e n { m with cluster := { m.cluster with pods } } m' result)
    (herased : pods = m.cluster.pods ∧ result ≠ .ok () ∨
      pods = m.cluster.pods.erase e.victimKey.text) :
    ((∃ detail, result = .error
          (.preemptionFailed e.preemptorKey.text e.victimKey.text e.host detail)) ∧
        m'.bindings = m.bindings ∧
        ∀ key ≠ e.victimKey.text, m'.cluster.pods.get? key = m.cluster.pods.get? key) ∨
      result = .ok () ∧ m'.bindings = m.bindings ++ [(e.preemptorKey.text, e.host)] ∧
        (∃ bound, m'.cluster.pods.get? e.preemptorKey.text = some bound ∧
          bound.nodeName? = some e.host) ∧
        m'.cluster.pods.get? e.victimKey.text = none ∧
        ∀ key, key ≠ e.preemptorKey.text → key ≠ e.victimKey.text →
          m'.cluster.pods.get? key = m.cluster.pods.get? key := by
  have hothers : ∀ key ≠ e.victimKey.text, pods.get? key = m.cluster.pods.get? key := by
    intro key hne
    rcases herased with ⟨rfl, _⟩ | rfl
    · rfl
    · exact (Table.get?_erase ..).trans (if_neg hne)
  rcases h.pods with ⟨hok, hbindings, stored, bound, hstored, hnode, hm'⟩ |
    ⟨⟨cause, hfailed⟩, hbindings, hm'⟩
  · have hgone : pods.get? e.victimKey.text = none := by
      rcases herased with ⟨_, hne⟩ | rfl
      · exact absurd hok hne
      · exact (Table.get?_erase ..).trans (if_pos rfl)
    -- The preemptor was bound, so it is not the pod that was deleted.
    have hdistinct : e.victimKey.text ≠ e.preemptorKey.text := by
      intro heq
      rw [heq] at hgone
      cases hgone.symm.trans hstored
    refine .inr ⟨hok, hbindings, ⟨bound, ?_, hnode⟩, ?_, fun key hne hne' ↦ ?_⟩
    · rw [hm', Table.get?_insert, if_pos rfl]
    · rw [hm', Table.get?_insert, if_neg hdistinct]
      exact hgone
    · rw [hm', Table.get?_insert, if_neg hne]
      exact hothers key hne'
  · refine .inl ⟨⟨_, hfailed⟩, hbindings, fun key hne ↦ ?_⟩
    rw [hm']
    exact hothers key hne

/-- An eviction that has the orchestrator to itself ends in one of three ways. It is refused, and
everything is as it was; it fails, and the host is restored and no pod but the victim touched; or it
succeeds, and the host is restored, the victim gone and the preemptor bound in its place. -/
theorem eviction_atomic {host : String} {preemptor victim : Pod} (hm : m.Reachable)
    (he : Eviction.ofPods host preemptor victim = .ok e) (hspace : e.victimKey.space ≠ "")
    (hrun : Run (x.next e) x.begin trace (.finished result)) (hanswers : m.Answers trace m') :
    (((∃ why, result = .error (.preemptionExhausted e.preemptorKey.text why)) ∨
        (∃ operation, result = .error (.retriesExhausted operation x.retry.attempts)) ∨
        ∃ cause, result = .error (.cluster cause)) ∧
      ∃ faults, m' = { m with faults }) ∨
    ∃ n n', m.cluster.nodes.get? host = some n ∧ n.Restored n' ∧
      m'.cluster.nodes = m.cluster.nodes.insert host n' ∧
      (((∃ detail, result = .error
            (.preemptionFailed e.preemptorKey.text e.victimKey.text host detail)) ∧
          m'.bindings = m.bindings ∧
          ∀ key ≠ e.victimKey.text, m'.cluster.pods.get? key = m.cluster.pods.get? key) ∨
        result = .ok () ∧ m'.bindings = m.bindings ++ [(e.preemptorKey.text, host)] ∧
          (∃ bound, m'.cluster.pods.get? e.preemptorKey.text = some bound ∧
            bound.nodeName? = some host) ∧
          m'.cluster.pods.get? e.victimKey.text = none ∧
          ∀ key, key ≠ e.preemptorKey.text → key ≠ e.victimKey.text →
            m'.cluster.pods.get? key = m.cluster.pods.get? key) := by
  have hpods : e.host = host ∧ WorkloadKey.ofPod e.preemptor = .ok e.preemptorKey := by
    unfold Eviction.ofPods at he
    split at he <;> cases he
    exact ⟨rfl, ‹_›⟩
  obtain ⟨rfl, hkey⟩ := hpods
  obtain ⟨held, rest, outcome, rfl, hattempts, hends⟩ := updates_of_run hrun
  obtain ⟨between, hheld, hrest⟩ := answers_append.1 hanswers
  obtain ⟨hrefused, hreserved⟩ := hattempts.reserve_answered hm.sound hheld
  by_cases houtcome : outcome = .ok true
  · subst houtcome
    obtain ⟨n, n₁, faults, hholds, hn, rfl⟩ := hreserved rfl
    have hevicted : Evicted x e rest result := hends
    obtain ⟨pods, herased, hsettled⟩ := hevicted.answered hkey hrest hholds
    obtain ⟨n', hrestored, hnodes⟩ := hsettled.nodes
    rw [fullKey_eq_text hspace] at herased
    refine .inr ⟨n, n', hn, hrestored, ?_, hsettled.pods_apart herased⟩
    refine hnodes.trans (Table.ext_get? fun name ↦ ?_)
    simp only [Table.get?_insert, get?_putNode]
    split <;> rfl
  · obtain ⟨rfl, hwhy⟩ := hends.unreserved houtcome
    obtain ⟨faults, rfl⟩ := hrefused houtcome
    refine .inl ⟨?_, faults, hrest⟩
    rcases hwhy with ⟨_, rfl⟩ | ⟨failure, rfl, rfl⟩
    · exact .inl ⟨_, rfl⟩
    · rcases hattempts.failed with rfl | ⟨cause, _, _, _, rfl, _⟩
      · exact .inr (.inl ⟨_, rfl⟩)
      · exact .inr (.inr ⟨cause, rfl⟩)

/-- The first update of the node is refused, the first look for the victim fails and the second one
still finds it; the node is restored all the same, and the preemptor bound to it. -/
theorem eviction_atomic_lingering :
    let x : Evictor := { settings := {}, retry := {} }
    let e : Eviction :=
      { host := "n1", preemptor := { metadata := { name := some "urgent" } },
        victim := { metadata := { name := some "settled" } },
        preemptorKey := ⟨"default", "urgent"⟩, victimKey := ⟨"default", "settled"⟩ }
    ∃ m m' : Memory, ∃ trace, m.Reachable ∧ m.cluster.pods.size = 2 ∧
      Eviction.ofPods "n1" e.preemptor e.victim = .ok e ∧ e.victimKey.space ≠ "" ∧
      Run (x.next e) x.begin trace (.finished (.ok ())) ∧ m.Answers trace m' ∧ trace.length = 11 ∧
      (∃ n n' : Node, m.cluster.nodes.get? "n1" = some n ∧ n.Restored n' ∧
        m'.cluster.nodes = m.cluster.nodes.insert "n1" n') ∧
      m'.bindings = [("default/urgent", "n1")] ∧ m'.cluster.pods.get? "default/settled" = none := by
  intro x e
  let n : Node := { metadata := { name := some "n1" } }
  let m := { holding [n] [e.preemptor, e.victim] with
    faults := { nodeConflicts := 1, lingerReads := 1, readFailures := 1 } }
  let driven := m.drive (x.next e) default 20 x.begin
  have hdriven :
      (driven.2.1, driven.1.length, m.cluster.pods.size) = (.finished (.ok ()), 11, 2) := by
    -- The kernel evaluates closed terms only.
    revert x e n
    rfl
  obtain ⟨hend, hlength, hsize⟩ := by simpa only [Prod.mk.injEq] using hdriven
  have hm : m.Reachable := .disturb _ (.holding _ _)
  obtain ⟨hrun, hanswers⟩ := drive_spec (x.next e) default 20 x.begin m
  rw [hend] at hrun
  have hpods : Eviction.ofPods "n1" e.preemptor e.victim = .ok e := rfl
  have hspace : e.victimKey.space ≠ "" := by decide
  rcases eviction_atomic hm hpods hspace hrun hanswers with
    ⟨⟨_, hwhy⟩ | ⟨_, hwhy⟩ | ⟨_, hwhy⟩, _⟩ |
    ⟨stored, n', hn, hrestored, hnodes, ⟨⟨_, hfailed⟩, _⟩ | ⟨_, hbindings, _, hgone, _⟩⟩
  · cases hwhy
  · cases hwhy
  · cases hwhy
  · cases hfailed
  · exact ⟨m, _, driven.1, hm, hsize, hpods, hspace, hrun, hanswers, hlength,
      ⟨stored, n', hn, hrestored, hnodes⟩, hbindings, hgone⟩

end Evictor

end PodPlacement
