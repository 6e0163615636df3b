import Mathlib.Logic.Relation
import PodPlacement.Plugins.Affinity

/-!
Pods that come and go over the nodes of a cluster. As long as each new one passes the plugin for
affinity between pods, none ever shares a domain with a pod that refuses its company, or that it
refuses itself, whichever of the two came first.
-/

namespace PodPlacement

/-- A required term of the pod `a` selects the pod `b`, and the node of either belongs to the same
domain for it. -/
def Repels (a b : Node × Pod) : Prop :=
  ∃ t ∈ a.2.requiredAntiTerms, a.2.termSelects t b.2 = true ∧
    ∃ value, a.1.labels.get? t.topologyKey = some value ∧
      b.1.labels.get? t.topologyKey = some value

def occupants (nodes : List NodeInfo) : List (Node × Pod) :=
  nodes.flatMap fun n ↦ n.pods.map (n.node, ·)

def Apart (nodes : List NodeInfo) : Prop :=
  (occupants nodes).Pairwise fun a b ↦ ¬Repels a b ∧ ¬Repels b a

namespace Plugins.InterPodAffinity

/-- A pod is placed on a node for which the plugin lets it pass, or a pod is removed. -/
inductive Step : List NodeInfo → List NodeInfo → Prop
  | place {before after : List NodeInfo} {n : NodeInfo} {pods : List Pod}
      {notes prepared : CycleState} {status : Status} (env : Surroundings) (p : Pod) :
      notes.snapshot.nodes = before ++ n :: after →
      preFilter notes p = (status, prepared) → status.isSuccess = true →
      (filter env prepared p n).isSuccess = true → pods.Perm (p :: n.pods) →
      Step (before ++ n :: after) (before ++ { n with pods } :: after)
  | remove {before after : List NodeInfo} {n : NodeInfo} {pods : List Pod} (q : Pod) :
      n.pods.Perm (q :: pods) → Step (before ++ n :: after) (before ++ { n with pods } :: after)

abbrev Reaches : List NodeInfo → List NodeInfo → Prop := Relation.ReflTransGen Step

/-! ### What the plugin sees to -/

variable {p : Pod} {n : NodeInfo} {s : Snapshot}

theorem mem_domains_of_get? {key value : String} (h : n.node.labels.get? key = some value) :
    ⟨key, value⟩ ∈ n.domains :=
  List.mem_map.2 ⟨(key, value), Table.get?_eq_some_iff.1 h, rfl⟩

theorem domain?_of_get? {key value : String} (h : n.node.labels.get? key = some value) :
    n.domain? key = some ⟨key, value⟩ := by
  rw [NodeInfo.domain?, h]
  rfl

theorem exists_placement {b : Node × Pod} (h : b ∈ occupants s.nodes) :
    ∃ m ∈ s.nodes, m.node = b.1 ∧ (m, b.2) ∈ s.placements := by
  obtain ⟨m, hm, hb⟩ := List.mem_flatMap.1 h
  obtain ⟨q, hq, rfl⟩ := List.mem_map.1 hb
  exact ⟨m, hm, rfl, List.mem_flatMap.2 ⟨m, hm, List.mem_map_of_mem hq⟩⟩

/-- A node that passes is out of every domain with a pod that repels this one. -/
theorem not_repels_of_placed (h : (judge (gather s p) p n).isSuccess = true) {b : Node × Pod}
    (hb : b ∈ occupants s.nodes) : ¬Repels b (n.node, p) := by
  rintro ⟨t, ht, hselects, value, hthere, hhere⟩
  obtain ⟨m, _, hnode, hplaced⟩ := exists_placement hb
  rw [← hnode] at hthere
  have hrefusing : ⟨t.topologyKey, value⟩ ∈ refusingDomains s p := by
    refine List.mem_flatMap.2 ⟨_, hplaced, List.mem_filterMap.2 ⟨t, ht, ?_⟩⟩
    rw [if_pos hselects, domain?_of_get? hthere]
  have hrefused : n.domains.any (gather s p).existingAntiAffinity.contains = true :=
    List.any_eq_true.2 ⟨_, mem_domains_of_get? hhere, List.contains_iff_mem.2 hrefusing⟩
  simp only [judge, hrefused, if_true] at h
  cases h

/-- A node that passes is out of every domain with a pod that this one repels. -/
theorem not_repels_placed (h : (judge (gather s p) p n).isSuccess = true) {b : Node × Pod}
    (hb : b ∈ occupants s.nodes) : ¬Repels (n.node, p) b := by
  rintro ⟨t, ht, hselects, value, hhere, hthere⟩
  obtain ⟨m, _, hnode, hplaced⟩ := exists_placement hb
  rw [← hnode] at hthere
  have hselected : ⟨t.topologyKey, value⟩ ∈ (gather s p).antiAffinity := by
    refine List.mem_flatMap.2 ⟨t, ht, List.mem_filterMap.2 ⟨_, hplaced, ?_⟩⟩
    exact (if_pos hselects).trans (domain?_of_get? hthere)
  have hviolated : p.requiredAntiTerms.any (inDomains (gather s p).antiAffinity n) = true := by
    refine List.any_eq_true.2 ⟨t, ht, ?_⟩
    rw [inDomains, domain?_of_get? hhere]
    exact List.contains_iff_mem.2 hselected
  simp only [judge, hviolated, if_true] at h
  split at h <;> cases h

theorem filter_of_preFilter {notes prepared : CycleState} {status : Status} (env : Surroundings)
    (h : preFilter notes p = (status, prepared)) :
    filter env prepared p n = judge (gather notes.snapshot p) p n := by
  obtain ⟨rfl, rfl⟩ := Prod.mk.inj h
  simp [filter, CycleState.read?, CycleState.write]

/-! ### What every step keeps -/

variable {before after nodes nodes' : List NodeInfo} {pods : List Pod}

theorem occupants_perm_cons (hpods : pods.Perm (p :: n.pods)) :
    (occupants (before ++ { n with pods } :: after)).Perm
      ((n.node, p) :: occupants (before ++ n :: after)) := by
  have hown := hpods.map (n.node, ·)
  simp only [occupants, List.flatMap_append, List.flatMap_cons]
  exact ((hown.append_right _).append_left _).trans List.perm_middle

theorem apart_cons_iff (hpods : pods.Perm (p :: n.pods)) :
    Apart (before ++ { n with pods } :: after) ↔
      (∀ b ∈ occupants (before ++ n :: after), ¬Repels (n.node, p) b ∧ ¬Repels b (n.node, p)) ∧
        Apart (before ++ n :: after) := by
  rw [Apart, (occupants_perm_cons hpods).pairwise_iff And.symm, List.pairwise_cons, Apart]

theorem Step.of_judge (env : Surroundings)
    (h : (judge (gather (.ofNodes (before ++ n :: after)) p) p n).isSuccess = true)
    (hpods : pods.Perm (p :: n.pods)) :
    Step (before ++ n :: after) (before ++ { n with pods } :: after) := by
  let notes : CycleState := { snapshot := .ofNodes (before ++ n :: after) }
  have hprepared : preFilter notes p = (.success, (preFilter notes p).2) := rfl
  rw [← filter_of_preFilter env hprepared] at h
  exact .place env p rfl hprepared rfl h hpods

theorem Step.apart (h : Step nodes nodes') (happart : Apart nodes) : Apart nodes' := by
  cases h with
  | place env p hnodes hprepared _ hfilter hpods =>
    refine (apart_cons_iff hpods).2 ⟨?_, happart⟩
    intro b hb
    rw [filter_of_preFilter env hprepared] at hfilter
    rw [← hnodes] at hb
    exact ⟨not_repels_placed hfilter hb, not_repels_of_placed hfilter hb⟩
  | @remove before after n pods q hpods =>
    exact ((apart_cons_iff (n := { n with pods }) hpods).1 happart).2

/-- If no two pods violate a required term at first, then none ever do. -/
theorem apart_of_reaches (happart : Apart nodes) (h : Reaches nodes nodes') :
    (occupants nodes').Pairwise fun a b ↦ ¬Repels a b ∧ ¬Repels b a := by
  induction h with
  | refl => exact happart
  | tail _ hstep ih => exact hstep.apart ih

namespace Rivals

/-! Two zones, of which one has two nodes; a pod that wants no web server in its zone, and a web
server. -/

def inZone (name zone : String) : NodeInfo where
  node := { metadata := { name := some name, labels := some (.ofList [("zone", zone)]) } }
  pods := []

def east : NodeInfo := inZone "n1" "east"

def east₂ : NodeInfo := inZone "n2" "east"

def west : NodeInfo := inZone "n3" "west"

def webServers : LabelSelector := { matchLabels := some (.ofList [("app", "web")]) }

def loner : Pod where
  metadata := { name := some "loner" }
  spec := some { affinity := some { podAnti := some {
    required := some [{ labelSelector := some webServers, topologyKey := "zone" }] } } }

def web : Pod where
  metadata := { name := some "web", labels := some (.ofList [("app", "web")]) }

end Rivals

open Rivals in
/-- The web server has to keep to the other zone until the pod that came first is gone. -/
theorem apart_of_reaches_rivals :
    ∃ nodes, Reaches [east, east₂, west] nodes ∧
      occupants nodes = [(east₂.node, web), (west.node, web)] ∧
      (occupants nodes).Pairwise fun a b ↦ ¬Repels a b ∧ ¬Repels b a := by
  have hloner : Step ([] ++ east :: [east₂, west])
      ([] ++ { east with pods := [loner] } :: [east₂, west]) :=
    .of_judge {} (by decide +kernel) (.refl _)
  have hweb : Step ([{ east with pods := [loner] }, east₂] ++ west :: [])
      ([{ east with pods := [loner] }, east₂] ++ { west with pods := [web] } :: []) :=
    .of_judge {} (by decide +kernel) (.refl _)
  have hgone : Step ([] ++ { east with pods := [loner] } :: [east₂, { west with pods := [web] }])
      ([] ++ { east with pods := [] } :: [east₂, { west with pods := [web] }]) :=
    .remove loner (.refl _)
  have hnext : Step ([east] ++ east₂ :: [{ west with pods := [web] }])
      ([east] ++ { east₂ with pods := [web] } :: [{ west with pods := [web] }]) :=
    .of_judge {} (by decide +kernel) (.refl _)
  have hreach : Reaches [east, east₂, west]
      [east, { east₂ with pods := [web] }, { west with pods := [web] }] :=
    (((Relation.ReflTransGen.single hloner).tail hweb).tail hgone).tail hnext
  have hempty : Apart [east, east₂, west] := List.Pairwise.nil
  exact ⟨_, hreach, rfl, apart_of_reaches hempty hreach⟩

end Plugins.InterPodAffinity

end PodPlacement
