import PodPlacement.Proofs.Scheduling.Victim

/-!
Victims on nodes that have given away more than they have. What a node has free is never less than
nothing, so a pod that leaves an overdrawn node frees less than it had, while the choice of a victim
counts all of it.
-/

namespace PodPlacement.NodeInfo

variable {n : NodeInfo} {p v : Pod} {others : List Pod}

/-- Without its victim, a node has enough of every native resource that it has not overdrawn. So the
room suffices exactly if it does for the overdrawn ones, after the overdraft is made good. -/
theorem covers_without_victim (hn : n.AllNonneg) (hfits : n.InRange)
    (hselect : n.selectVictim p = some v) (hnonzero : v.request.isZero = false)
    (hperm : n.pods.Perm (v :: others)) :
    (∀ r, (free { n with pods := others }).get r = max (v.request.get r + n.balance r) 0) ∧
    (∀ r, 0 ≤ n.balance r → p.request.get r ≤ (free { n with pods := others }).get r) ∧
    ((free { n with pods := others }).covers p.request = true ↔
      ∀ r, n.balance r < 0 → p.request.get r ≤ max (v.request.get r + n.balance r) 0) := by
  have hfree (r : Native) : (free { n with pods := others }).get r =
      max (v.request.get r + n.balance r) 0 :=
    hfits.get_free_without hn.requests hperm hn.reservations (hn.allocatable.1 r)
  have hkept (r : Native) (hr : 0 ≤ n.balance r) :
      p.request.get r ≤ (free { n with pods := others }).get r := by
    have hchosen := request_le_of_selectVictim hselect hnonzero r
    rw [hfits.get_request_add_free hn.requests hperm hn.reservations (hn.allocatable.1 r),
      max_eq_left hr] at hchosen
    rw [hfree]
    exact hchosen.trans (Int.le_max_left ..)
  refine ⟨hfree, hkept, ?_⟩
  rw [Amounts.covers_iff]
  constructor
  · intro hcovers r _
    rw [← hfree]
    exact hcovers r
  · intro hoverdrawn r
    by_cases hr : 0 ≤ n.balance r
    · exact hkept r hr
    · rw [hfree]
      exact hoverdrawn r (Int.not_le.1 hr)

namespace Overdrawn

/-! Two running pods on a node with room for one of them, and an urgent pod that wants a core. -/

def cores (amount : String) : ResourceList := .ofList [("cpu", amount)]

def running (name amount : String) (priority : Int) : Pod where
  metadata := { name := some name }
  spec := some {
    containers := [{ resources := some { requests := some (cores amount) } }]
    priority := some priority }
  status := some { phase := some Pod.runningPhase }

def urgent : Pod := running "urgent" "1000m" 100

def large : Pod := running "large" "2000m" 10

def small : Pod := running "small" "1000m" 10

def other : Pod := running "other" "1000m" 20

def holding (amount : String) (pods : List Pod) : NodeInfo where
  node :=
    { metadata := { name := some "n1" }, status := some { allocatable := some (cores amount) } }
  pods

/-- The pods of the node are listed from the least priority up. -/
theorem selectVictim_first {n : NodeInfo} {p v : Pod} {others : List Pod}
    (hpods : n.pods = v :: others)
    (hordered : (v :: others).Pairwise fun a b ↦ decide (a.priority ≤ b.priority) = true)
    (heligible : n.isEligibleVictim p v = true) : n.selectVictim p = some v := by
  rw [selectVictim, hpods, List.mergeSort_of_pairwise hordered, List.find?_cons_of_pos heligible]

end Overdrawn

open Overdrawn in
/-- The node is a core short, and the victim has two. -/
theorem covers_without_victim_large :
    let n := holding "2000m" [large, other]
    n.InRange ∧ n.balance .cpu = -1000 ∧ n.selectVictim urgent = some large ∧
      (free { n with pods := [other] }).covers urgent.request = true := by
  intro n
  have hn : n.AllNonneg :=
    ⟨by decide +kernel, by decide +kernel, by decide +kernel, by decide +kernel⟩
  have hfits : n.InRange := by decide +kernel
  have hselect : n.selectVictim urgent = some large :=
    selectVictim_first rfl (by decide +kernel) (by decide +kernel)
  obtain ⟨_, _, hcovers⟩ :=
    covers_without_victim hn hfits hselect (by decide +kernel) (List.Perm.refl [large, other])
  exact ⟨hfits, by decide +kernel, hselect, hcovers.2 (by decide +kernel)⟩

open Overdrawn in
/-- The node is a core short and nothing is reserved on it. Its victim has one core, and the urgent
pod does not find it there once the victim is gone. -/
theorem victim_leaves_no_room :
    let n := holding "1000m" [small, other]
    (∀ q ∈ urgent :: n.pods, q.request.AllNonneg) ∧ n.allocatable.AllNonneg ∧
      n.reservations = [] ∧ n.selectVictim urgent = some small ∧
      small.request.isZero = false ∧
      (free { n with pods := [other] }).covers urgent.request = false := by
  refine ⟨by decide +kernel, by decide +kernel, rfl, ?_, by decide +kernel, by decide +kernel⟩
  exact selectVictim_first rfl (by decide +kernel) (by decide +kernel)

end PodPlacement.NodeInfo
