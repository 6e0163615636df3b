import PodPlacement.Service.Queues

/-!
What sending, taking and acknowledging messages leaves on the queues.
-/

namespace PodPlacement.Queues

variable {qs : Queues} {name other : String} {body : Body} {d : Delivery}

theorem queue_insert (qs : Queues) (name : String) (q : Queue) (other : String) :
    Queues.queue (qs.insert name q) other = if other = name then q else qs.queue other := by
  unfold Queues.queue Table.getD
  rw [Table.get?_insert]
  split <;> rfl

/-- A message that is sent on a queue whose consumer has not gone comes last on it. -/
theorem send_present (h : (qs.queue name).consumer = .present) (body : Body) :
    ∃ qs', qs.send name body = (.ok (), qs') ∧
      (qs'.queue name).waiting = (qs.queue name).waiting ++ [body] ∧
      (qs'.queue name).consumer = .present ∧
      ∀ other ≠ name, qs'.queue other = qs.queue other := by
  have hsend : (qs.queue name).send? body = some { qs.queue name with
      waiting := (qs.queue name).waiting ++ [body], sent := (qs.queue name).sent + 1 } := by
    refine if_neg ?_
    rw [h]
    exact nofun
  refine ⟨_, by unfold Queues.send; rw [hsend], ?_, ?_, fun other hne ↦ ?_⟩
  · rw [queue_insert, if_pos rfl]
  · rw [queue_insert, if_pos rfl]
    exact h
  · rw [queue_insert, if_neg hne]

theorem take?_of_waiting {later : List Body} (h : (qs.queue name).waiting = body :: later) :
    ∃ d qs', qs.take? name = some (d, qs') ∧ d.body = body := by
  unfold Queues.take? Queue.take?
  rw [h]
  exact ⟨_, _, rfl, rfl⟩

theorem take?_eq_some {qs' : Queues} (h : qs.take? name = some (d, qs')) :
    (qs.queue name).waiting = d.body :: (qs'.queue name).waiting ∧
      (qs'.queue name).consumer = (qs.queue name).consumer ∧
      ∀ other ≠ name, qs'.queue other = qs.queue other := by
  unfold Queues.take? at h
  obtain ⟨⟨number, body, q⟩, htake, heq⟩ := Option.map_eq_some_iff.1 h
  cases heq
  unfold Queue.take? at htake
  split at htake
  · cases htake
  · next hwaiting =>
    cases htake
    refine ⟨?_, ?_, fun other hne ↦ ?_⟩
    · rw [queue_insert, if_pos rfl, hwaiting]
    · rw [queue_insert, if_pos rfl]
    · rw [queue_insert, if_neg hne]

def SameMessages (qs qs' : Queues) : Prop :=
  ∀ name, (qs'.queue name).waiting = (qs.queue name).waiting ∧
    (qs'.queue name).consumer = (qs.queue name).consumer

theorem acknowledge_sameMessages (qs : Queues) (d : Delivery) :
    SameMessages qs (qs.acknowledge d) := by
  intro name
  unfold Queues.acknowledge
  split
  · rw [queue_insert]
    split
    · next heq =>
      rw [heq]
      unfold Queue.acknowledge
      split <;> exact ⟨rfl, rfl⟩
    · exact ⟨rfl, rfl⟩
  · exact ⟨rfl, rfl⟩

end PodPlacement.Queues
