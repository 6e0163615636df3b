import Mathlib.Data.List.Nodup
import Mathlib.Data.Option.Basic
import Mathlib.Data.String.Basic
import PodPlacement.Cluster.View
import PodPlacement.Proofs.Table

/-!
What a snapshot shows of a cluster: every node once, and with each node the pods that take up room
on it.
-/

namespace PodPlacement.ClusterView

structure Filed (v : ClusterView) : Prop where
  nodes : ∀ e ∈ v.nodes.entries, e.2.name = e.1
  pods : ∀ e ∈ v.pods.entries, e.2.keyText? = some e.1

/-- The snapshot has the nodes in the order of their names, and with each the unfinished pods that
are assigned to it; no pod is in two places. -/
structure ShownBy (v : ClusterView) (s : Snapshot) : Prop where
  names : s.nodes.map (·.name) = v.nodes.keys
  ascending : (s.nodes.map (·.name)).Pairwise (· < ·)
  nodes : ∀ n ∈ s.nodes, v.nodes.get? n.name = some n.node
  found : ∀ name n, s.get? name = some n ↔ n ∈ s.nodes ∧ n.name = name
  pods : ∀ n ∈ s.nodes, ∀ p, p ∈ n.pods ↔
    (∃ key, p.keyText? = some key ∧ v.pods.get? key = some p) ∧ p.nodeName? = some n.name ∧
      p.isFinished = false
  once : ((s.nodes.flatMap (·.pods)).map (·.keyText?)).Nodup

variable {v : ClusterView} {p : Pod} {name : String}

theorem mem_podsOn :
    p ∈ v.podsOn name ↔ p ∈ v.pods.values ∧ p.nodeName? = some name ∧ p.isFinished = false := by
  simp [podsOn]

theorem Filed.mem_values (h : v.Filed) :
    p ∈ v.pods.values ↔ ∃ key, p.keyText? = some key ∧ v.pods.get? key = some p := by
  simp only [Table.get?_eq_some_iff]
  constructor
  · intro hp
    obtain ⟨⟨key, p⟩, he, rfl⟩ := List.mem_map.1 hp
    exact ⟨key, h.pods _ he, he⟩
  · rintro ⟨key, _, he⟩
    exact List.mem_map_of_mem he

theorem Filed.values_keys_nodup (h : v.Filed) : (v.pods.values.map (·.keyText?)).Nodup := by
  have hkeys : v.pods.values.map (·.keyText?) = v.pods.keys.map some := by
    rw [Table.values, Table.keys, List.map_map, List.map_map]
    exact List.map_congr_left h.pods
  rw [hkeys]
  exact v.pods.keys_nodup.map (Option.some_injective _)

theorem Filed.names_snapshot (h : v.Filed) : v.snapshot.nodes.map (·.name) = v.nodes.keys := by
  rw [snapshot, Snapshot.ofNodes, List.map_map, Table.values, Table.keys, List.map_map]
  exact List.map_congr_left h.nodes

theorem mem_snapshot {n : NodeInfo} :
    n ∈ v.snapshot.nodes ↔ n.node ∈ v.nodes.values ∧ n.pods = v.podsOn n.name := by
  simp only [snapshot, Snapshot.ofNodes, List.mem_map]
  constructor
  · rintro ⟨node, hnode, rfl⟩
    exact ⟨hnode, rfl⟩
  · rintro ⟨hnode, hpods⟩
    refine ⟨n.node, hnode, ?_⟩
    cases n
    rw [NodeInfo.mk.injEq]
    exact ⟨rfl, hpods.symm⟩

theorem get?_eq_some_iff {s : Snapshot} (h : (s.nodes.map (·.name)).Nodup) {n : NodeInfo} :
    s.get? name = some n ↔ n ∈ s.nodes ∧ n.name = name := by
  constructor
  · intro hget
    exact ⟨List.mem_reverse.1 (List.mem_of_find?_eq_some hget),
      by simpa using List.find?_some hget⟩
  · rintro ⟨hn, hname⟩
    have hsome : (s.get? name).isSome = true := by
      rw [Snapshot.get?, List.find?_isSome]
      exact ⟨n, List.mem_reverse.2 hn, by simp [hname]⟩
    obtain ⟨m, hm⟩ := Option.isSome_iff_exists.1 hsome
    have hmem : m ∈ s.nodes := List.mem_reverse.1 (List.mem_of_find?_eq_some hm)
    have hsame : m.name = n.name := by
      rw [hname]
      simpa using List.find?_some hm
    rw [hm, List.inj_on_of_nodup_map h hmem hn hsame]

theorem Filed.pods_once (h : v.Filed) :
    ((v.snapshot.nodes.flatMap (·.pods)).map (·.keyText?)).Nodup := by
  rw [List.map_flatMap, List.nodup_flatMap]
  refine ⟨fun n hn ↦ ?_, ?_⟩
  · rw [(mem_snapshot.1 hn).2]
    exact h.values_keys_nodup.sublist (List.filter_sublist.map _)
  · have hnames : (v.snapshot.nodes.map (·.name)).Nodup := by
      rw [h.names_snapshot]
      exact v.nodes.keys_nodup
    have hdistinct : v.snapshot.nodes.Pairwise (·.name ≠ ·.name) := List.pairwise_map.1 hnames
    refine hdistinct.imp_of_mem fun {n m} hn hm hne ↦ List.disjoint_left.2 ?_
    intro key hkey hkey'
    obtain ⟨p, hp, rfl⟩ := List.mem_map.1 hkey
    obtain ⟨q, hq, hsame⟩ := List.mem_map.1 hkey'
    rw [(mem_snapshot.1 hn).2, mem_podsOn] at hp
    rw [(mem_snapshot.1 hm).2, mem_podsOn] at hq
    have heq := List.inj_on_of_nodup_map h.values_keys_nodup hq.1 hp.1 hsame
    subst heq
    exact hne (Option.some.inj (hp.2.1.symm.trans hq.2.1))

theorem Filed.snapshot_shows (h : v.Filed) : v.ShownBy v.snapshot := by
  have hascending : (v.snapshot.nodes.map (·.name)).Pairwise (· < ·) := by
    rw [h.names_snapshot, Table.keys, List.pairwise_map]
    exact v.nodes.ascending
  have hnodup : (v.snapshot.nodes.map (·.name)).Nodup := by
    rw [h.names_snapshot]
    exact v.nodes.keys_nodup
  refine ⟨h.names_snapshot, hascending, fun n hn ↦ ?_, fun name n ↦ get?_eq_some_iff hnodup,
    fun n hn p ↦ ?_, h.pods_once⟩
  · obtain ⟨⟨name, node⟩, he, heq⟩ := List.mem_map.1 (mem_snapshot.1 hn).1
    have hname : n.name = name := by
      rw [NodeInfo.name, ← heq]
      exact h.nodes _ he
    rw [hname, ← heq]
    exact Table.get?_eq_some_iff.2 he
  · rw [(mem_snapshot.1 hn).2, mem_podsOn, h.mem_values]

end PodPlacement.ClusterView
