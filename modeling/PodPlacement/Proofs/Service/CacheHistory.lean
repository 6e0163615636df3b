import PodPlacement.Proofs.Cluster.Snapshot
import PodPlacement.Proofs.Service.Cache

/-!
A cache over any course of changes and listings: what it holds, and what its snapshot makes of that.
-/

namespace PodPlacement

inductive CacheChange
  | upsertNode (n : Node)
  | removeNode (name : String)
  | upsertPod (p : Pod)
  | removePod (key : WorkloadKey)
  | replace (nodes : List Node) (pods : List Pod)
  | syncFrom (l : Listing)

namespace CacheChange

def listing? : CacheChange → Option (List Node × List Pod)
  | replace nodes pods => some (nodes, pods)
  | syncFrom ⟨.ok nodes, .ok pods⟩ => some (nodes, pods)
  | _ => none

/-- What the change says about the node of that name: nothing, or that there is none, or which it
is. -/
def node? (name : String) : CacheChange → Option (Option Node)
  | upsertNode n => if name = n.name then some (some n) else none
  | removeNode name' => if name = name' then some none else none
  | change => change.listing?.map fun (nodes, _) ↦ (nodes.filter (·.name == name)).getLast?

def pod? (key : String) : CacheChange → Option (Option Pod)
  | upsertPod p => if p.keyText? = some key then some (some p) else none
  | removePod key' => if key = key'.text then some none else none
  | change => change.listing?.map fun (_, pods) ↦ (pods.filter (·.keyText? == some key)).getLast?

def fails : CacheChange → Bool
  | upsertPod p => p.keyText?.isNone
  | change@(syncFrom _) => change.listing?.isNone
  | _ => false

variable {change : CacheChange} {nodes : List Node} {pods : List Pod}

theorem node?_of_listing (h : change.listing? = some (nodes, pods)) (name : String) :
    change.node? name = some ((nodes.filter (·.name == name)).getLast?) := by
  cases change <;> simp_all [node?, listing?]

theorem pod?_of_listing (h : change.listing? = some (nodes, pods)) (key : String) :
    change.pod? key = some ((pods.filter (·.keyText? == some key)).getLast?) := by
  cases change <;> simp_all [pod?, listing?]

/-- Who is written is filed under their own name. -/
theorem name_of_node? {name : String} {n : Node} (h : change.node? name = some (some n)) :
    n.name = name := by
  cases hlisting : change.listing? with
  | some listing =>
    rw [node?_of_listing hlisting, Option.some.injEq] at h
    have hmem := List.mem_of_getLast? h
    simpa using (List.mem_filter.1 hmem).2
  | none =>
    cases change with
    | upsertNode n' =>
      simp only [node?] at h
      split at h
      · next hname =>
        cases h
        exact hname.symm
      · cases h
    | removeNode name' =>
      simp only [node?] at h
      split at h <;> cases h
    | _ => simp_all [node?]

theorem node?_of_fails (h : change.fails = true) (name : String) : change.node? name = none := by
  cases change <;> simp_all [fails, node?, listing?]

theorem pod?_of_fails (h : change.fails = true) (key : String) : change.pod? key = none := by
  cases change <;> simp_all [fails, pod?]

end CacheChange

namespace Cache

def change (c : Cache) : CacheChange → Except ServiceError Cache
  | .upsertNode n => .ok (c.upsertNode n)
  | .removeNode name => .ok (c.removeNode name)
  | .upsertPod p => c.upsertPod p
  | .removePod key => .ok (c.removePod key)
  | .replace nodes pods => .ok (c.replace nodes pods)
  | .syncFrom l => c.syncFrom l

def after (c : Cache) (changes : List CacheChange) : Cache :=
  changes.foldl (fun c change ↦ (c.change change).toOption.getD c) c

variable {c : Cache} {change : CacheChange} {changes : List CacheChange} {name key : String}

/-! ### One change -/

theorem upsertPod_eq (c : Cache) (p : Pod) :
    (p.keyText? = none ∧ ∃ e, c.upsertPod p = .error e) ∨
    ∃ key, p.keyText? = some key ∧ c.upsertPod p =
      .ok { c with cluster := { c.cluster with pods := c.cluster.pods.insert key p } } := by
  unfold upsertPod Pod.keyText?
  cases WorkloadKey.ofPod p with
  | error e => exact .inl ⟨rfl, _, rfl⟩
  | ok key => exact .inr ⟨_, rfl, rfl⟩

theorem syncFrom_eq (c : Cache) (l : Listing) :
    ((CacheChange.syncFrom l).listing? = none ∧ ∃ e, c.syncFrom l = .error e) ∨
    ∃ nodes pods, (CacheChange.syncFrom l).listing? = some (nodes, pods) ∧
      c.syncFrom l = .ok (c.replace nodes pods) := by
  obtain ⟨nodes, pods⟩ := l
  cases nodes with
  | error e => exact .inl ⟨rfl, _, rfl⟩
  | ok nodes =>
    cases pods with
    | error e => exact .inl ⟨rfl, _, rfl⟩
    | ok pods => exact .inr ⟨_, _, rfl, rfl⟩

theorem change_fails_iff : (∃ e, c.change change = .error e) ↔ change.fails = true := by
  cases change with
  | upsertPod p =>
    rcases c.upsertPod_eq p with ⟨hkey, e, heq⟩ | ⟨key, hkey, heq⟩
    · exact iff_of_true ⟨e, heq⟩ (by simp [CacheChange.fails, hkey])
    · simp [Cache.change, heq, CacheChange.fails, hkey]
  | syncFrom l =>
    rcases c.syncFrom_eq l with ⟨hlisting, e, heq⟩ | ⟨nodes, pods, hlisting, heq⟩
    · exact iff_of_true ⟨e, heq⟩ (by simp [CacheChange.fails, hlisting])
    · simp [Cache.change, heq, CacheChange.fails, hlisting]
  | _ => simp [Cache.change, CacheChange.fails]

theorem after_append (c : Cache) (changes : List CacheChange) (change : CacheChange) :
    c.after (changes ++ [change]) = (c.after changes).after [change] := List.foldl_append

theorem after_eq (c : Cache) (change : CacheChange) :
    c.after [change] = (c.change change).toOption.getD c := rfl

theorem after_failed (h : change.fails = true) : c.after [change] = c := by
  obtain ⟨e, heq⟩ := change_fails_iff.2 h
  rw [after_eq, heq]
  rfl

theorem after_listing {nodes : List Node} {pods : List Pod}
    (h : change.listing? = some (nodes, pods)) : c.after [change] = c.replace nodes pods := by
  cases change with
  | replace nodes' pods' =>
    cases h
    rfl
  | syncFrom l =>
    rcases c.syncFrom_eq l with ⟨hlisting, _⟩ | ⟨nodes', pods', hlisting, heq⟩
    · cases hlisting.symm.trans h
    · cases hlisting.symm.trans h
      rw [after_eq, Cache.change, heq]
      rfl
  | _ => cases h

/-- A change that is no listing touches one entry, or nothing. -/
theorem after_single (h : change.listing? = none) :
    (∃ n, change = .upsertNode n ∧ c.after [change] = c.upsertNode n) ∨
    (∃ name, change = .removeNode name ∧ c.after [change] = c.removeNode name) ∨
    (∃ p key, change = .upsertPod p ∧ p.keyText? = some key ∧ c.after [change] =
      { c with cluster := { c.cluster with pods := c.cluster.pods.insert key p } }) ∨
    (∃ key, change = .removePod key ∧ c.after [change] = c.removePod key) ∨
    (change.fails = true ∧ c.after [change] = c) := by
  cases change with
  | upsertNode n => exact .inl ⟨n, rfl, rfl⟩
  | removeNode name => exact .inr (.inl ⟨name, rfl, rfl⟩)
  | upsertPod p =>
    rcases c.upsertPod_eq p with ⟨hkey, _⟩ | ⟨key, hkey, heq⟩
    · have hfails : (CacheChange.upsertPod p).fails = true := by simp [CacheChange.fails, hkey]
      exact .inr (.inr (.inr (.inr ⟨hfails, after_failed hfails⟩)))
    · refine .inr (.inr (.inl ⟨p, key, rfl, hkey, ?_⟩))
      rw [after_eq, Cache.change, heq]
      rfl
  | removePod key => exact .inr (.inr (.inr (.inl ⟨key, rfl, rfl⟩)))
  | replace nodes pods => cases h
  | syncFrom l =>
    have hfails : (CacheChange.syncFrom l).fails = true := by simp [CacheChange.fails, h]
    exact .inr (.inr (.inr (.inr ⟨hfails, after_failed hfails⟩)))

theorem get?_tableOfNodes (nodes : List Node) (name : String) :
    (tableOfNodes nodes).get? name = (nodes.filter (·.name == name)).getLast? := by
  rw [tableOfNodes, Table.get?_ofList_last, List.filter_map, List.getLast?_map, Option.map_map]
  exact congrFun Option.map_id _

theorem get?_tableOfPods (pods : List Pod) (key : String) :
    (tableOfPods pods).get? key = (pods.filter (·.keyText? == some key)).getLast? := by
  have hkeyed : (pods.filterMap fun p ↦ p.keyText?.map (·, p)).filter (·.1 == key) =
      (pods.filter (·.keyText? == some key)).map (key, ·) := by
    induction pods with
    | nil => rfl
    | cons p pods ih =>
      cases hp : p.keyText? with
      | none => simp [hp, ih]
      | some key' => by_cases hkey : key' = key <;> simp [hp, hkey, ih]
  rw [tableOfPods, Table.get?_ofList_last, hkeyed, List.getLast?_map, Option.map_map]
  exact congrFun Option.map_id _

theorem get?_nodes_change (c : Cache) (change : CacheChange) (name : String) :
    (c.after [change]).cluster.nodes.get? name =
      (change.node? name).getD (c.cluster.nodes.get? name) := by
  cases hlisting : change.listing? with
  | some listing =>
    rw [after_listing hlisting, CacheChange.node?_of_listing hlisting]
    exact get?_tableOfNodes listing.1 name
  | none =>
    rcases after_single (c := c) hlisting with ⟨n, rfl, heq⟩ | ⟨name', rfl, heq⟩ |
      ⟨p, key, rfl, _, heq⟩ | ⟨key, rfl, heq⟩ | ⟨hfails, heq⟩
    · rw [heq, upsertNode, Table.get?_insert, CacheChange.node?]
      split <;> rfl
    · rw [heq, removeNode, Table.get?_erase, CacheChange.node?]
      split <;> rfl
    · rw [heq]
      rfl
    · rw [heq]
      rfl
    · rw [heq, CacheChange.node?_of_fails hfails, Option.getD_none]

theorem get?_pods_change (c : Cache) (change : CacheChange) (key : String) :
    (c.after [change]).cluster.pods.get? key =
      (change.pod? key).getD (c.cluster.pods.get? key) := by
  cases hlisting : change.listing? with
  | some listing =>
    rw [after_listing hlisting, CacheChange.pod?_of_listing hlisting]
    exact get?_tableOfPods listing.2 key
  | none =>
    rcases after_single (c := c) hlisting with ⟨n, rfl, heq⟩ | ⟨name', rfl, heq⟩ |
      ⟨p, key', rfl, hkey, heq⟩ | ⟨key', rfl, heq⟩ | ⟨hfails, heq⟩
    · rw [heq]
      rfl
    · rw [heq]
      rfl
    · rw [heq, Table.get?_insert, CacheChange.pod?, hkey]
      by_cases hsame : key = key' <;> simp [hsame, eq_comm]
    · rw [heq, removePod, Table.get?_erase, CacheChange.pod?]
      split <;> rfl
    · rw [heq, CacheChange.pod?_of_fails hfails, Option.getD_none]

theorem synced_change (c : Cache) (change : CacheChange) :
    (c.after [change]).synced = (c.synced || change.listing?.isSome) := by
  cases hlisting : change.listing? with
  | some listing => simp [after_listing hlisting, replace]
  | none =>
    rcases after_single (c := c) hlisting with ⟨n, rfl, heq⟩ | ⟨name', rfl, heq⟩ |
      ⟨p, key', rfl, _, heq⟩ | ⟨key', rfl, heq⟩ | ⟨_, heq⟩
    all_goals simp [heq, upsertNode, removeNode, removePod]

theorem Reachable.after_one (h : c.Reachable) (change : CacheChange) :
    (c.after [change]).Reachable := by
  cases hlisting : change.listing? with
  | some listing =>
    rw [after_listing hlisting]
    exact h.replace listing.1 listing.2
  | none =>
    rcases after_single (c := c) hlisting with ⟨n, rfl, heq⟩ | ⟨name', rfl, heq⟩ |
      ⟨p, key', rfl, hkey, heq⟩ | ⟨key', rfl, heq⟩ | ⟨_, heq⟩
    · exact heq ▸ h.upsertNode n
    · exact heq ▸ h.removeNode name'
    · rcases c.upsertPod_eq p with ⟨hnone, _⟩ | ⟨key, hsome, hok⟩
      · cases hnone.symm.trans hkey
      · cases hsome.symm.trans hkey
        exact heq ▸ h.upsertPod p hok
    · exact heq ▸ h.removePod key'
    · rwa [heq]

/-! ### Any number of changes -/

/-- What the last change that says anything about a node of that name says. -/
theorem get?_nodes_after (changes : List CacheChange) (name : String) :
    ((Cache.after {} changes).cluster.nodes.get? name) =
      (changes.reverse.findSome? (·.node? name)).join := by
  induction changes using List.reverseRecOn with
  | nil => rfl
  | append_singleton changes change ih =>
    rw [after_append, get?_nodes_change, ih, List.reverse_append, List.reverse_singleton,
      List.singleton_append, List.findSome?_cons]
    cases change.node? name <;> rfl

theorem get?_pods_after (changes : List CacheChange) (key : String) :
    ((Cache.after {} changes).cluster.pods.get? key) =
      (changes.reverse.findSome? (·.pod? key)).join := by
  induction changes using List.reverseRecOn with
  | nil => rfl
  | append_singleton changes change ih =>
    rw [after_append, get?_pods_change, ih, List.reverse_append, List.reverse_singleton,
      List.singleton_append, List.findSome?_cons]
    cases change.pod? key <;> rfl

theorem synced_after (changes : List CacheChange) :
    (Cache.after {} changes).synced = changes.any (·.listing?.isSome) := by
  induction changes using List.reverseRecOn with
  | nil => rfl
  | append_singleton changes change ih =>
    rw [after_append, synced_change, ih, List.any_append, List.any_cons, List.any_nil,
      Bool.or_false]

theorem reachable_after (changes : List CacheChange) : (Cache.after {} changes).Reachable := by
  induction changes using List.reverseRecOn with
  | nil => exact .empty
  | append_singleton changes change ih =>
    rw [after_append]
    exact ih.after_one change

theorem filed_after (changes : List CacheChange) : (Cache.after {} changes).cluster.Filed := by
  refine ⟨fun e he ↦ ?_, (reachable_after changes).keyed⟩
  have hget := Table.get?_eq_some_iff.2 he
  rw [get?_nodes_after, Option.join_eq_some_iff] at hget
  obtain ⟨change, _, hnode⟩ := List.exists_of_findSome?_eq_some hget
  exact CacheChange.name_of_node? hnode

/-- Who is waiting for a node is on none. -/
theorem pending_not_shown (h : c.cluster.Filed) {schedulerName : String} {p q : Pod}
    (hp : p ∈ c.pendingPods schedulerName) (hq : q ∈ c.snapshot.nodes.flatMap (·.pods)) :
    p.keyText? ≠ q.keyText? := by
  intro hsame
  obtain ⟨n, hn, hqn⟩ := List.mem_flatMap.1 hq
  obtain ⟨⟨key, hkey, hstored⟩, hnode, _⟩ := (h.snapshot_shows.pods n hn q).1 hqn
  obtain ⟨hvalue, hpending⟩ := List.mem_filter.1 hp
  obtain ⟨key', hkey', hstored'⟩ := h.mem_values.1 hvalue
  have hkeys : key' = key := Option.some.inj (hkey'.symm.trans (hsame.trans hkey))
  rw [hkeys, hstored, Option.some.injEq] at hstored'
  simp [← hstored', hnode] at hpending

/-- After any changes a cache holds of each name and each key what the last change that says
anything about it says. It counts as synced as soon as a listing came through. A change fails only
where a pod has no name or a listing did not come through, and then nothing has changed. The
snapshot has each unfinished pod on its node if the node is there, once and nowhere else, and none
that is still to be scheduled. -/
theorem holds_and_shows (changes : List CacheChange) :
    let c := Cache.after {} changes
    (∀ name, c.cluster.nodes.get? name = (changes.reverse.findSome? (·.node? name)).join) ∧
    (∀ key, c.cluster.pods.get? key = (changes.reverse.findSome? (·.pod? key)).join) ∧
    c.synced = changes.any (·.listing?.isSome) ∧
    (∀ change, ((∃ e, c.change change = .error e) ↔ change.fails = true) ∧
      (change.fails = true → c.after [change] = c) ∧
      (c.synced = true → (c.after [change]).synced = true)) ∧
    c.cluster.ShownBy c.snapshot ∧
    ∀ schedulerName, ∀ p ∈ c.pendingPods schedulerName, ∀ q ∈ c.snapshot.nodes.flatMap (·.pods),
      p.keyText? ≠ q.keyText? := by
  intro c
  have hfiled : c.cluster.Filed := filed_after changes
  refine ⟨get?_nodes_after changes, get?_pods_after changes, synced_after changes,
    fun change ↦ ⟨change_fails_iff, after_failed, fun hsynced ↦ ?_⟩, hfiled.snapshot_shows, ?_⟩
  · rw [synced_change, hsynced, Bool.true_or]
  · intro schedulerName p hp q hq
    exact pending_not_shown hfiled hp hq

/-- A pod is listed, then waits again, is bound, and stays when a later listing fails. -/
theorem holds_and_shows_rebound :
    ∃ (changes : List CacheChange) (bound : Pod), changes.countP (·.fails) = 2 ∧
      (Cache.after {} changes).synced = true ∧
      (Cache.after {} changes).cluster.pods.get? "default/web" = some bound ∧
      (∃ n, (Cache.after {} changes).snapshot.get? "n1" = some n ∧ bound ∈ n.pods) ∧
      (∀ p ∈ (Cache.after {} changes).pendingPods "corral", p.keyText? ≠ bound.keyText?) ∧
      Cache.after {} (changes ++ [.upsertPod {}]) = Cache.after {} changes := by
  let node : Node := { metadata := { name := some "n1" } }
  let waiting : Pod :=
    { metadata := { name := some "web" }, spec := some { schedulerName := some "corral" } }
  let bound : Pod :=
    { waiting with spec := some { schedulerName := some "corral", nodeName := some "n1" } }
  let changes : List CacheChange := [.replace [node] [bound], .upsertPod waiting, .upsertPod {},
    .upsertPod bound, .syncFrom { pods := .error (.internal "no answer") }]
  obtain ⟨hnodes, hpods, hsynced, hchange, hshown, hpending⟩ := holds_and_shows changes
  have hbound : (Cache.after {} changes).cluster.pods.get? "default/web" = some bound :=
    (hpods "default/web").trans rfl
  have hname : "n1" ∈ (Cache.after {} changes).snapshot.nodes.map (·.name) := by
    have hnode : (Cache.after {} changes).cluster.nodes.get? "n1" = some node :=
      (hnodes "n1").trans rfl
    rw [hshown.names]
    exact List.mem_map_of_mem (Table.get?_eq_some_iff.1 hnode)
  obtain ⟨n, hn, hname⟩ := List.mem_map.1 hname
  have hon : bound ∈ n.pods :=
    (hshown.pods n hn bound).2 ⟨⟨_, rfl, hbound⟩, by rw [hname]; rfl, by decide +kernel⟩
  refine ⟨changes, bound, rfl, hsynced.trans rfl, hbound,
    ⟨n, (hshown.found "n1" n).2 ⟨hn, hname⟩, hon⟩, fun p hp ↦ ?_, ?_⟩
  · exact hpending "corral" p hp bound (List.mem_flatMap.2 ⟨n, hn, hon⟩)
  · rw [after_append]
    exact (hchange (.upsertPod {})).2.1 rfl

end Cache

end PodPlacement
