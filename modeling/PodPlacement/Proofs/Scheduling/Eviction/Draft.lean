import PodPlacement.Proofs.Orchestrator.Memory
import PodPlacement.Proofs.Scheduling.Eviction.Order
import PodPlacement.Proofs.Text.Integer

/-!
Evictions that are not alone. Each edits a copy of the node that it read some time ago, and writes
the whole status back. As long as the version of the copy is the present one, the copy is what the
update makes of the present node.
-/

namespace PodPlacement

/-! ### How far an eviction has come -/

def NodeUpdate.begins : NodeUpdate → Bool
  | reserve => true
  | release _ => false

namespace EvictionPhase

def reserving : EvictionPhase → Bool
  | reading u _ | writing u _ _ | resting u _ _ => u.begins
  | _ => false

def holding : EvictionPhase → Bool
  | reading u _ | writing u _ _ | resting u _ _ => !u.begins
  | deleting | checking _ | waiting _ | placing => true
  | finished _ => false

/-- Going from `a` to `b` neither begins an eviction anew nor makes the node reserved. -/
structure Onward (a b : EvictionPhase) : Prop where
  reserving : b.reserving = true → a.reserving = true
  holding : b.holding = true → a.holding = true

theorem Onward.refl (a : EvictionPhase) : Onward a a := ⟨id, id⟩

end EvictionPhase

namespace Evictor

variable {x : Evictor} {e : Eviction} {u : NodeUpdate} {s : RetryState} {m : Memory} {n : Node}

theorem settle_onward {outcome : Except ClusterError Bool} (hne : outcome ≠ .ok true) :
    (EvictionPhase.reading u s).Onward (x.settle e u s outcome) := by
  unfold settle
  cases hjudge : x.retry.judge (operation u) s outcome with
  | rest d => exact ⟨id, id⟩
  | finish result =>
    have hresult : result ≠ .ok true := fun hok ↦ hne (RetryConfig.judge_ok (hok ▸ hjudge))
    cases u with
    | release final => exact ⟨nofun, nofun⟩
    | reserve =>
      match result with
      | .ok true => exact absurd rfl hresult
      | .ok false => exact ⟨nofun, nofun⟩
      | .error cause => exact ⟨nofun, nofun⟩

/-- Only the answer to an update can reserve the node. -/
theorem call_onward {now : Timestamp} {phase : EvictionPhase} {asked : Call}
    {resume : asked.Answer → EvictionPhase} (hnext : x.next e now phase = .call asked resume)
    (hasked : ∀ n, asked ≠ .updateNodeStatus n) (answer : asked.Answer) :
    phase.Onward (resume answer) := by
  cases phase with
  | reading u s =>
    cases hnext
    unfold afterRead
    cases answer with
    | error cause => exact settle_onward nofun
    | ok n =>
      dsimp only
      split
      · exact ⟨id, id⟩
      · exact settle_onward nofun
  | writing u s n =>
    cases hnext
    exact absurd rfl (hasked n)
  | deleting =>
    cases hnext
    refine ⟨?_, fun _ ↦ rfl⟩
    unfold afterDelete
    cases answer with
    | ok _ => exact nofun
    | error cause =>
      dsimp only
      split <;> exact nofun
  | checking interval =>
    cases hnext
    refine ⟨?_, fun _ ↦ rfl⟩
    unfold afterCheck
    cases answer with
    | ok current =>
      dsimp only
      split <;> exact nofun
    | error cause =>
      dsimp only
      split <;> exact nofun
  | placing =>
    cases hnext
    refine ⟨?_, fun _ ↦ rfl⟩
    cases answer <;> exact nofun
  | resting u s d => cases hnext
  | waiting interval => cases hnext
  | finished final => cases hnext

theorem sleep_onward {now : Timestamp}
    {phase after : EvictionPhase} {d : Delay} (hnext : x.next e now phase = .sleep d after) :
    phase.Onward after ∧ ∀ u s n, after ≠ .writing u s n := by
  cases phase with
  | resting u s d =>
    cases hnext
    exact ⟨⟨id, id⟩, fun _ _ _ ↦ nofun⟩
  | waiting interval =>
    cases hnext
    exact ⟨⟨id, id⟩, fun _ _ _ ↦ nofun⟩
  | reading u s => cases hnext
  | writing u s n => cases hnext
  | deleting => cases hnext
  | checking interval => cases hnext
  | placing => cases hnext
  | finished final => cases hnext

theorem phase_of_update {now : Timestamp} {phase : EvictionPhase}
    {resume : (Call.updateNodeStatus n).Answer → EvictionPhase}
    (hnext : x.next e now phase = .call (.updateNodeStatus n) resume) :
    ∃ u s, phase = .writing u s n ∧ resume = fun r ↦ x.settle e u s (r.map fun _ ↦ true) := by
  cases phase with
  | writing u s n =>
    cases hnext
    exact ⟨u, s, rfl, rfl⟩
  | reading u s => cases hnext
  | resting u s d => cases hnext
  | deleting => cases hnext
  | checking interval => cases hnext
  | waiting interval => cases hnext
  | placing => cases hnext
  | finished final => cases hnext

/-! ### Copies of the node -/

/-- The node that an update is about to write. It names a version that was given out before, and if
that is still the present one, it is what the update makes of the present node. -/
structure Draft (m : Memory) (e : Eviction) (u : NodeUpdate) (n : Node) : Prop where
  name : n.name = e.host
  version : ∃ k ≤ m.version, n.metadata.version = some (toString k)
  current : ∀ stored, m.cluster.nodes.get? e.host = some stored →
    stored.metadata.version = n.metadata.version → ∃ now, edit e now u stored = some n

theorem edit_metadata {now : Timestamp} {changed : Node} (h : edit e now u n = some changed) :
    changed.metadata = n.metadata := by
  cases u with
  | reserve =>
    rw [edit_reserve h]
    rfl
  | release result =>
    unfold edit Node.release? at h
    dsimp only at h
    split at h <;> cases h
    rfl

theorem Draft.of_read {now : Timestamp} {read : Node} (hm : m.Sound)
    (hread : m.getNode e.host = .ok read) (hedit : edit e now u read = some n) :
    Draft m e u n := by
  have hstored := Memory.getNode_ok hread
  obtain ⟨hname, hversion⟩ := hm e.host read hstored
  have hsame := edit_metadata hedit
  refine ⟨?_, ?_, fun stored hpresent _ ↦ ?_⟩
  · unfold Node.name at hname ⊢
    rwa [hsame]
  · rwa [hsame]
  · rw [hstored] at hpresent
    cases hpresent
    exact ⟨now, hedit⟩

theorem Draft.of_nodes {m' : Memory} (h : Draft m e u n)
    (hnodes : m'.cluster.nodes = m.cluster.nodes) (hversion : m.version ≤ m'.version) :
    Draft m' e u n := by
  obtain ⟨hname, ⟨k, hk, hstamp⟩, hcurrent⟩ := h
  exact ⟨hname, ⟨k, hk.trans hversion, hstamp⟩, hnodes ▸ hcurrent⟩

/-- An accepted update makes the drafts of the same node stale. -/
theorem Draft.put {name : String} {stored : Node} (h : Draft m e u n)
    (hversion : stored.metadata.version = some (toString (m.version + 1))) :
    Draft (m.bump.putNode name stored) e u n := by
  obtain ⟨hname, ⟨k, hk, hstamp⟩, hcurrent⟩ := h
  refine ⟨hname, ⟨k, hk.trans (Nat.le_succ _), hstamp⟩, fun present hpresent hsame ↦ ?_⟩
  rw [Memory.get?_putNode] at hpresent
  split at hpresent
  · cases hpresent
    rw [hversion, hstamp] at hsame
    have hk' : m.version + 1 = k := Text.eq_of_toString_eq (Option.some.inj hsame)
    omega
  · exact hcurrent present hpresent hsame

theorem Draft.perform (h : Draft m e u n) (asked : Call) : Draft (m.perform asked).2 e u n := by
  rcases m.perform_cases asked with ⟨hnodes, hversion⟩ | ⟨changed, stored, rfl, haccepts⟩
  · exact h.of_nodes hnodes hversion
  · rw [Memory.perform, haccepts.update_eq]
    exact h.put (m.version_written changed stored)

/-- What was accepted is what the update makes of the node as it was. -/
theorem Draft.accepted {stored : Node} (h : Draft m e u n) (haccepts : m.Accepts n stored) :
    m.cluster.nodes.get? e.host = some stored ∧ ∃ now, edit e now u stored = some n := by
  have hpresent := haccepts.present
  rw [h.name] at hpresent
  refine ⟨hpresent, h.current stored hpresent ?_⟩
  rcases haccepts.current with hnone | hsame
  · obtain ⟨k, _, hstamp⟩ := h.version
    rw [hstamp] at hnone
    cases hnone
  · exact hsame.symm

theorem settle_ne_writing {outcome : Except ClusterError Bool} {u' : NodeUpdate}
    {s' : RetryState} : x.settle e u' s' outcome ≠ .writing u s n := by
  unfold settle
  split
  · next result _ =>
    match u', result with
    | .reserve, .ok true => exact nofun
    | .reserve, .ok false => exact nofun
    | .reserve, .error cause => exact nofun
    | .release final, _ => exact nofun
  · exact nofun

theorem Draft.of_call {now : Timestamp} {phase : EvictionPhase} {asked : Call}
    {resume : asked.Answer → EvictionPhase} (hm : m.Sound)
    (hnext : x.next e now phase = .call asked resume)
    (hwriting : resume (m.perform asked).1 = .writing u s n) : Draft (m.perform asked).2 e u n := by
  cases phase with
  | reading u' s' =>
    cases hnext
    generalize hread : (m.perform (.getNode e.host)).1 = answer at hwriting
    unfold afterRead at hwriting
    split at hwriting
    · exact absurd hwriting settle_ne_writing
    · next read =>
      split at hwriting
      · next hedit =>
        cases hwriting
        exact .of_read hm hread hedit
      · exact absurd hwriting settle_ne_writing
  | writing u' s' n' =>
    cases hnext
    exact absurd hwriting settle_ne_writing
  | deleting =>
    cases hnext
    unfold afterDelete at hwriting
    split at hwriting
    · cases hwriting
    · split at hwriting <;> cases hwriting
  | checking interval =>
    cases hnext
    unfold afterCheck at hwriting
    split at hwriting <;> split at hwriting <;> cases hwriting
  | placing =>
    cases hnext
    unfold afterBind at hwriting
    split at hwriting <;> cases hwriting
  | resting u s d => cases hnext
  | waiting interval => cases hnext
  | finished final => cases hnext

end Evictor

end PodPlacement
