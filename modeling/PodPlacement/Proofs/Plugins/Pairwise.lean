import Mathlib.Logic.Basic
import PodPlacement.Proofs.Plugins.Separation

/-!
Affinity between pods, pair by pair. The domains that are gathered once for an attempt say about a
node what a look at every placed pod would say.
-/

namespace PodPlacement

def Node.Shares (a b : Node) (key : String) : Prop :=
  ∃ value, a.labels.get? key = some value ∧ b.labels.get? key = some value

namespace Plugins.InterPodAffinity

def Joins (nodes : List NodeInfo) (p : Pod) (n : Node) : Prop :=
  ∀ t ∈ p.requiredTerms, ∃ m ∈ nodes, ∃ e ∈ m.pods,
    p.termSelects t e = true ∧ m.node.Shares n t.topologyKey

/-- The pod is the first of a group: its required terms select no pod in any domain, but they select
the pod itself, and the node has a domain for each of them. -/
structure Opens (nodes : List NodeInfo) (p : Pod) (n : Node) : Prop where
  alone : ∀ t ∈ p.requiredTerms, ∀ m ∈ nodes, ∀ e ∈ m.pods,
    p.termSelects t e = true → m.node.labels.get? t.topologyKey = none
  member : ∀ t ∈ p.requiredTerms, p.termSelects t p = true
  placed : ∀ t ∈ p.requiredTerms, (n.labels.get? t.topologyKey).isSome = true

variable {s : Snapshot} {p : Pod} {n : NodeInfo} {t : PodAffinityTerm} {d : Domain}
  {domains : List Domain} {key : String}

/-! ### Domains -/

theorem domain?_eq_some_iff :
    n.domain? key = some d ↔ d.key = key ∧ n.node.labels.get? key = some d.value := by
  rw [NodeInfo.domain?, Option.map_eq_some_iff]
  constructor
  · rintro ⟨value, hvalue, rfl⟩
    exact ⟨rfl, hvalue⟩
  · rintro ⟨rfl, hvalue⟩
    exact ⟨d.value, hvalue, rfl⟩

theorem mem_domains_iff : d ∈ n.domains ↔ n.node.labels.get? d.key = some d.value := by
  constructor
  · intro h
    obtain ⟨e, he, rfl⟩ := List.mem_map.1 h
    exact Table.get?_eq_some_iff.2 he
  · exact mem_domains_of_get?

theorem inDomains_iff : inDomains domains n t = true ↔
    ∃ value, n.node.labels.get? t.topologyKey = some value ∧ ⟨t.topologyKey, value⟩ ∈ domains := by
  rw [inDomains, Option.any_eq_true]
  constructor
  · rintro ⟨d, hdomain, hmem⟩
    obtain ⟨hkey, hvalue⟩ := domain?_eq_some_iff.1 hdomain
    refine ⟨d.value, hvalue, ?_⟩
    rw [← hkey]
    exact List.contains_iff_mem.1 hmem
  · rintro ⟨value, hvalue, hmem⟩
    exact ⟨_, domain?_of_get? hvalue, List.contains_iff_mem.2 hmem⟩

/-! ### What is gathered -/

theorem mem_placements {m : NodeInfo} {e : Pod} :
    (m, e) ∈ s.placements ↔ m ∈ s.nodes ∧ e ∈ m.pods := by
  simp [Snapshot.placements]

theorem mem_selectedDomains : d ∈ selectedDomains s p t ↔
    ∃ m ∈ s.nodes, ∃ e ∈ m.pods, p.termSelects t e = true ∧ d.key = t.topologyKey ∧
      m.node.labels.get? t.topologyKey = some d.value := by
  rw [selectedDomains, List.mem_filterMap]
  constructor
  · rintro ⟨⟨m, e⟩, hplaced, hdomain⟩
    obtain ⟨hm, he⟩ := mem_placements.1 hplaced
    obtain ⟨hselects, hd⟩ := Option.ite_none_right_eq_some.1 hdomain
    exact ⟨m, hm, e, he, hselects, domain?_eq_some_iff.1 hd⟩
  · rintro ⟨m, hm, e, he, hselects, hd⟩
    refine ⟨(m, e), mem_placements.2 ⟨hm, he⟩, ?_⟩
    exact Option.ite_none_right_eq_some.2 ⟨hselects, domain?_eq_some_iff.2 hd⟩

theorem mem_refusingDomains : d ∈ refusingDomains s p ↔
    ∃ m ∈ s.nodes, ∃ e ∈ m.pods, ∃ t ∈ e.requiredAntiTerms, e.termSelects t p = true ∧
      d.key = t.topologyKey ∧ m.node.labels.get? t.topologyKey = some d.value := by
  rw [refusingDomains, List.mem_flatMap]
  constructor
  · rintro ⟨⟨m, e⟩, hplaced, hmem⟩
    obtain ⟨hm, he⟩ := mem_placements.1 hplaced
    obtain ⟨t, ht, hdomain⟩ := List.mem_filterMap.1 hmem
    obtain ⟨hselects, hd⟩ := Option.ite_none_right_eq_some.1 hdomain
    exact ⟨m, hm, e, he, t, ht, hselects, domain?_eq_some_iff.1 hd⟩
  · rintro ⟨m, hm, e, he, t, ht, hselects, hd⟩
    refine ⟨(m, e), mem_placements.2 ⟨hm, he⟩, List.mem_filterMap.2 ⟨t, ht, ?_⟩⟩
    exact Option.ite_none_right_eq_some.2 ⟨hselects, domain?_eq_some_iff.2 hd⟩

/-! ### What the gathered domains say about a node -/

theorem refused_iff : n.domains.any (gather s p).existingAntiAffinity.contains = true ↔
    ∃ m ∈ s.nodes, ∃ e ∈ m.pods, Repels (m.node, e) (n.node, p) := by
  rw [List.any_eq_true]
  constructor
  · rintro ⟨d, hhere, hrefusing⟩
    obtain ⟨m, hm, e, he, t, ht, hselects, hkey, hthere⟩ :=
      mem_refusingDomains.1 (List.contains_iff_mem.1 hrefusing)
    have hhere := mem_domains_iff.1 hhere
    rw [hkey] at hhere
    exact ⟨m, hm, e, he, t, ht, hselects, d.value, hthere, hhere⟩
  · rintro ⟨m, hm, e, he, t, ht, hselects, value, hthere, hhere⟩
    refine ⟨⟨t.topologyKey, value⟩, mem_domains_of_get? hhere, List.contains_iff_mem.2 ?_⟩
    exact mem_refusingDomains.2 ⟨m, hm, e, he, t, ht, hselects, rfl, hthere⟩

/-- The terms of the pod share one list of domains. A domain says by its key which of them it may be
of, so that no term is taken for another. -/
theorem refuses_iff : p.requiredAntiTerms.any (inDomains (gather s p).antiAffinity n) = true ↔
    ∃ m ∈ s.nodes, ∃ e ∈ m.pods, Repels (n.node, p) (m.node, e) := by
  rw [List.any_eq_true]
  constructor
  · rintro ⟨t, _, hin⟩
    obtain ⟨value, hhere, hmem⟩ := inDomains_iff.1 hin
    obtain ⟨t', ht', hselected⟩ := List.mem_flatMap.1 hmem
    obtain ⟨m, hm, e, he, hselects, hkey, hthere⟩ := mem_selectedDomains.1 hselected
    rw [show t.topologyKey = t'.topologyKey from hkey] at hhere
    exact ⟨m, hm, e, he, t', ht', hselects, value, hhere, hthere⟩
  · rintro ⟨m, hm, e, he, t, ht, hselects, value, hhere, hthere⟩
    refine ⟨t, ht, inDomains_iff.2 ⟨value, hhere, List.mem_flatMap.2 ⟨t, ht, ?_⟩⟩⟩
    exact mem_selectedDomains.2 ⟨m, hm, e, he, hselects, rfl, hthere⟩

theorem joins_iff : (p.requiredTerms.zip (gather s p).affinity).all
    (fun (t, domains) ↦ inDomains domains n t) = true ↔ Joins s.nodes p n.node := by
  rw [gather, ← List.map_prod_left_eq_zip, List.all_map, List.all_eq_true]
  refine forall₂_congr fun t _ ↦ ?_
  simp only [Function.comp_apply, inDomains_iff, mem_selectedDomains]
  constructor
  · rintro ⟨value, hhere, m, hm, e, he, hselects, _, hthere⟩
    exact ⟨m, hm, e, he, hselects, value, hthere, hhere⟩
  · rintro ⟨m, hm, e, he, hselects, value, hthere, hhere⟩
    exact ⟨value, hhere, m, hm, e, he, hselects, trivial, hthere⟩

theorem selectedDomains_eq_nil_iff : selectedDomains s p t = [] ↔
    ∀ m ∈ s.nodes, ∀ e ∈ m.pods,
      p.termSelects t e = true → m.node.labels.get? t.topologyKey = none := by
  rw [List.eq_nil_iff_forall_not_mem]
  constructor
  · intro hnone m hm e he hselects
    cases hvalue : m.node.labels.get? t.topologyKey with
    | none => rfl
    | some value =>
      have hmem : ⟨t.topologyKey, value⟩ ∈ selectedDomains s p t :=
        mem_selectedDomains.2 ⟨m, hm, e, he, hselects, rfl, hvalue⟩
      exact absurd hmem (hnone _)
  · intro halone d hd
    obtain ⟨m, hm, e, he, hselects, _, hvalue⟩ := mem_selectedDomains.1 hd
    cases (halone m hm e he hselects).symm.trans hvalue

theorem opens_iff : mayOpenGroup (gather s p) p n = true ↔ Opens s.nodes p n.node := by
  rw [mayOpenGroup, gather, Bool.and_eq_true, Bool.and_eq_true, List.all_map, List.all_eq_true,
    List.all_eq_true, List.all_eq_true]
  simp only [Function.comp_apply, List.isEmpty_iff, selectedDomains_eq_nil_iff]
  constructor
  · rintro ⟨⟨halone, hmember⟩, hplaced⟩
    exact ⟨halone, hmember, hplaced⟩
  · rintro ⟨halone, hmember, hplaced⟩
    exact ⟨⟨halone, hmember⟩, hplaced⟩

/-- What is found about a node, pair by pair and in this order: a placed pod refuses this one, this
one refuses a placed pod, or this one is not where it wants to be. -/
theorem judge_cases (s : Snapshot) (p : Pod) (n : NodeInfo) :
    let refused := ∃ m ∈ s.nodes, ∃ e ∈ m.pods, Repels (m.node, e) (n.node, p)
    let refuses := ∃ m ∈ s.nodes, ∃ e ∈ m.pods, Repels (n.node, p) (m.node, e)
    let wanted := Joins s.nodes p n.node ∨ Opens s.nodes p n.node
    (refused ∧ judge (gather s p) p n =
      .unschedulable "node(s) didn't satisfy existing pods anti-affinity rules") ∨
    (¬refused ∧ refuses ∧ judge (gather s p) p n =
      .unschedulable "node(s) didn't match pod anti-affinity rules") ∨
    (¬refused ∧ ¬refuses ∧ wanted ∧ judge (gather s p) p n = .success) ∨
    (¬refused ∧ ¬refuses ∧ ¬wanted ∧
      judge (gather s p) p n = .unresolvable "node(s) didn't match pod affinity rules") := by
  intro refused refuses wanted
  have hwanted : ((p.requiredTerms.zip (gather s p).affinity).all
      (fun (t, domains) ↦ inDomains domains n t) || mayOpenGroup (gather s p) p n) = true ↔
        wanted := by
    rw [Bool.or_eq_true, joins_iff, opens_iff]
  unfold judge
  split
  · next h => exact .inl ⟨refused_iff.1 h, rfl⟩
  · next h =>
    have hnot : ¬refused := refused_iff.not.1 h
    split
    · next h => exact .inr (.inl ⟨hnot, refuses_iff.1 h, rfl⟩)
    · next h =>
      have hnot' : ¬refuses := refuses_iff.not.1 h
      split
      · next h => exact .inr (.inr (.inl ⟨hnot, hnot', hwanted.1 h, rfl⟩))
      · next h => exact .inr (.inr (.inr ⟨hnot, hnot', hwanted.not.1 h, rfl⟩))

/-- The plugin lets a pod pass to a node exactly if no pod in a domain of the node refuses its
company, it refuses none of them itself, and each of its terms selects a pod in the domain that the
node has for it, unless the pod is the first of a group. Only a refusal can be overcome by
evictions. -/
theorem filter_pairwise (env : Surroundings) (notes : CycleState) (p : Pod) (n : NodeInfo) :
    let nodes := notes.snapshot.nodes
    let status := filter env (preFilter notes p).2 p n
    let refused := ∃ m ∈ nodes, ∃ e ∈ m.pods, Repels (m.node, e) (n.node, p)
    let refuses := ∃ m ∈ nodes, ∃ e ∈ m.pods, Repels (n.node, p) (m.node, e)
    let wanted := Joins nodes p n.node ∨ Opens nodes p n.node
    (preFilter notes p).1.isSuccess = true ∧
    (status.isSuccess = true ↔ ¬refused ∧ ¬refuses ∧ wanted) ∧
    (status.code = .unschedulable ↔ refused ∨ refuses) ∧
    (status.code = .unresolvable ↔ ¬refused ∧ ¬refuses ∧ ¬wanted) := by
  intro nodes status refused refuses wanted
  have hstatus : status = judge (gather notes.snapshot p) p n := filter_of_preFilter env rfl
  refine ⟨rfl, ?_⟩
  rw [hstatus]
  rcases judge_cases notes.snapshot p n with ⟨hrefused, h⟩ | ⟨hnot, hrefuses, h⟩ |
    ⟨hnot, hnot', hwanted, h⟩ | ⟨hnot, hnot', hwanted, h⟩
  · rw [h]
    exact ⟨iff_of_false nofun fun hpass ↦ hpass.1 hrefused, iff_of_true rfl (.inl hrefused),
      iff_of_false nofun fun hother ↦ hother.1 hrefused⟩
  · rw [h]
    exact ⟨iff_of_false nofun fun hpass ↦ hpass.2.1 hrefuses, iff_of_true rfl (.inr hrefuses),
      iff_of_false nofun fun hother ↦ hother.2.1 hrefuses⟩
  · rw [h]
    exact ⟨iff_of_true rfl ⟨hnot, hnot', hwanted⟩, iff_of_false nofun (not_or.2 ⟨hnot, hnot'⟩),
      iff_of_false nofun fun hother ↦ hother.2.2 hwanted⟩
  · rw [h]
    exact ⟨iff_of_false nofun fun hpass ↦ hwanted hpass.2.2,
      iff_of_false nofun (not_or.2 ⟨hnot, hnot'⟩), iff_of_true rfl ⟨hnot, hnot', hwanted⟩⟩

end Plugins.InterPodAffinity

end PodPlacement
