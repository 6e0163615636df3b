import PodPlacement.Proofs.Table
import PodPlacement.Service.Cache

/-!
What a cache can hold. However it was filled, each pod stands under its own key.
-/

namespace PodPlacement.Cache

/-- The caches that come of single changes and of listings. -/
inductive Reachable : Cache → Prop
  | empty : Reachable {}
  | upsertNode {c : Cache} (n : Node) : Reachable c → Reachable (c.upsertNode n)
  | removeNode {c : Cache} (name : String) : Reachable c → Reachable (c.removeNode name)
  | upsertPod {c c' : Cache} (p : Pod) : Reachable c → c.upsertPod p = .ok c' → Reachable c'
  | removePod {c : Cache} (key : WorkloadKey) : Reachable c → Reachable (c.removePod key)
  | replace {c : Cache} (nodes : List Node) (pods : List Pod) : Reachable c →
      Reachable (c.replace nodes pods)
  | syncFrom {c c' : Cache} (l : Listing) : Reachable c → c.syncFrom l = .ok c' → Reachable c'

def Keyed (c : Cache) : Prop := ∀ e ∈ c.cluster.pods.entries, e.2.keyText? = some e.1

theorem keyed_replace (c : Cache) (nodes : List Node) (pods : List Pod) :
    (c.replace nodes pods).Keyed := by
  intro e he
  obtain ⟨p, _, hp⟩ := List.mem_filterMap.1 (Table.mem_of_mem_ofList he)
  obtain ⟨key, hkey, rfl⟩ := Option.map_eq_some_iff.1 hp
  exact hkey

theorem Reachable.keyed {c : Cache} (h : c.Reachable) : c.Keyed := by
  induction h with
  | empty => exact fun _ he ↦ nomatch he
  | upsertNode _ _ ih => exact ih
  | removeNode _ _ ih => exact ih
  | @upsertPod c c' p _ hadd ih =>
    unfold Cache.upsertPod at hadd
    split at hadd
    · cases hadd
    · next key hkey =>
      cases hadd
      intro e he
      rcases Table.mem_insertEntry he with rfl | hold
      · simp [Pod.keyText?, hkey, Except.toOption]
      · exact ih e hold
  | removePod key _ ih =>
    intro e he
    exact ih e (List.mem_filter.1 he).1
  | replace nodes pods _ _ => exact keyed_replace _ _ _
  | @syncFrom c c' l _ hsync _ =>
    unfold Cache.syncFrom at hsync
    split at hsync
    · cases hsync
    · split at hsync
      · cases hsync
      · cases hsync
        exact keyed_replace _ _ _

end PodPlacement.Cache
