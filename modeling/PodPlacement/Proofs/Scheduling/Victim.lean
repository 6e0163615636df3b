import PodPlacement.Proofs.Cluster.NodeInfo
import PodPlacement.Proofs.Scheduling.Decision

/-!
What a node still lacks for a pod once the victim chosen for it is gone. The choice weighs the
native resources only, so an extended resource can be lacking as before.
-/

namespace PodPlacement

namespace NodeInfo

variable {n : NodeInfo} {name : String}

theorem flatMap_lacking (es : List (String × Int)) (there : String → Int) :
    (es.flatMap fun e ↦ if there e.1 < e.2 then ["Insufficient " ++ e.1] else []) =
      (es.filter fun e ↦ there e.1 < e.2).map fun e ↦ "Insufficient " ++ e.1 := by
  induction es with
  | nil => rfl
  | cons e es ih =>
    rw [List.flatMap_cons, ih, List.filter_cons]
    by_cases h : there e.1 < e.2
    · rw [if_pos h, if_pos (decide_eq_true h)]
      rfl
    · rw [if_neg h, if_neg fun hd ↦ h (of_decide_eq_true hd)]
      rfl

/-- Where there is a place and enough of every native resource, only extended resources can be
lacking. -/
theorem insufficientResources_of_native {q : Amounts}
    (hplace : 0 < n.allocatable.pods → (n.pods.length : Int) + 1 ≤ n.allocatable.pods)
    (hnative : ∀ r, q.get r ≤ n.free.get r) (hextra : ∀ name, 0 ≤ n.free.extra name) :
    insufficientResources q n = (q.extended.entries.filter fun e ↦ n.free.extra e.1 < e.2).map
      fun e ↦ "Insufficient " ++ e.1 := by
  have hcrowded : ¬(0 < n.allocatable.pods ∧ n.allocatable.pods < (n.pods.length : Int) + 1) :=
    fun ⟨hlimit, hover⟩ ↦ Int.not_lt.2 (hplace hlimit) hover
  unfold insufficientResources
  dsimp only
  rw [if_neg hcrowded, List.nil_append]
  split
  · next hnothing =>
    have hzero : ∀ e ∈ q.extended.entries, e.2 = 0 := by
      intro e he
      have hall := List.all_eq_true.1 (Bool.and_eq_true_iff.1 hnothing).2 e.2
        (List.mem_map_of_mem he)
      exact eq_of_beq hall
    have hnone : q.extended.entries.filter (fun e ↦ n.free.extra e.1 < e.2) = [] := by
      refine List.filter_eq_nil_iff.2 fun e he hless ↦ ?_
      have hle := hextra e.1
      have hlt := of_decide_eq_true hless
      rw [hzero e he] at hlt
      omega
    rw [hnone, List.map_nil]
  · have henough (r : Native) : ¬n.free.get r < q.get r := Int.not_lt.2 (hnative r)
    have hcpu : ¬n.free.cpu < q.cpu := henough .cpu
    have hmemory : ¬n.free.memory < q.memory := henough .memory
    have hephemeral : ¬n.free.ephemeral < q.ephemeral := henough .ephemeral
    rw [if_neg hcpu, if_neg hmemory, if_neg hephemeral, List.nil_append, List.nil_append,
      List.nil_append]
    exact flatMap_lacking q.extended.entries n.free.extra

/-! ### Taking one pod away -/

/-- What the pods and the reservations leave of a native resource, negative where they have more
than there is. -/
def balance (n : NodeInfo) (r : Native) : Int :=
  n.allocatable.get r - (n.pods.map (·.request.get r)).sum - (n.reservations.map (·.get r)).sum

variable {v : Pod} {others : List Pod}

theorem balance_without (h : n.pods.Perm (v :: others)) (r : Native) :
    balance { n with pods := others } r = v.request.get r + n.balance r := by
  have hallocatable : (allocatable { n with pods := others }).get r = n.allocatable.get r := rfl
  have hreservations : reservations { n with pods := others } = n.reservations := rfl
  rw [balance, balance, sum_map_of_perm h, hallocatable, hreservations]
  dsimp only
  omega

theorem forall_others {P : Pod → Prop} (h : n.pods.Perm (v :: others)) (hpods : ∀ q ∈ n.pods, P q) :
    ∀ q ∈ others, P q :=
  fun q hq ↦ hpods q (h.mem_iff.2 (List.mem_cons_of_mem _ hq))

namespace InRange

variable (hfits : n.InRange) (hrequests : ∀ q ∈ n.pods, q.request.AllNonneg)
  (h : n.pods.Perm (v :: others))

include hfits hrequests in
theorem get_free_eq_balance (hheld : ∀ q ∈ n.reservations, q.Nonneg) {r : Native}
    (hallocatable : 0 ≤ n.allocatable.get r) : n.free.get r = max (n.balance r) 0 := by
  have hrequested := hfits.get_requested_nonneg hrequests r
  have hreserved := hfits.get_reserved_nonneg hheld r
  rw [get_free hallocatable hrequested hreserved, balance, ← hfits.get_requested,
    ← hfits.get_reserved]
  omega

include hfits hrequests h

theorem without : InRange { n with pods := others } where
  requests r := by
    have hv := (hrequests v (h.mem_iff.2 (List.mem_cons_self ..))).1 r
    have hsum := sum_map_of_perm h (·.request.get r)
    refine (hfits.requests r).of_le (sum_get_nonneg (forall_others h hrequests) r) ?_
    dsimp only
    omega
  extras name := by
    have hv := (hrequests v (h.mem_iff.2 (List.mem_cons_self ..))).2 name
    have hsum := sum_map_of_perm h (·.request.extra name)
    refine (hfits.extras name).of_le (sum_extra_nonneg (forall_others h hrequests) name) ?_
    dsimp only
    omega
  reservations := hfits.reservations

/-- A pod that leaves gives back what it had, less the overdraft of the node. -/
theorem get_free_without (hheld : ∀ q ∈ n.reservations, q.Nonneg) {r : Native}
    (hallocatable : 0 ≤ n.allocatable.get r) :
    (free { n with pods := others }).get r = max (v.request.get r + n.balance r) 0 := by
  rw [(hfits.without hrequests h).get_free_eq_balance (forall_others h hrequests) hheld
    hallocatable, balance_without h]

/-- What a pod has and what is free besides never come to more than 64 bits hold. -/
theorem get_request_add_free (hheld : ∀ q ∈ n.reservations, q.Nonneg) {r : Native}
    (hallocatable : 0 ≤ n.allocatable.get r) :
    Word.add (v.request.get r) (n.free.get r) = v.request.get r + max (n.balance r) 0 := by
  have hv := (hrequests v (h.mem_iff.2 (List.mem_cons_self ..))).1 r
  have hothers := sum_get_nonneg (forall_others h hrequests) r
  have hreserved := sum_reservations_nonneg hheld r
  have hsum := sum_map_of_perm h (·.request.get r)
  rw [hfits.get_free_eq_balance hrequests hheld hallocatable, Word.add_of_fits]
  rcases le_total (n.balance r) 0 with hless | hmore
  · rw [max_eq_right hless, Int.add_zero]
    exact (hfits.requests r).of_le hv (by omega)
  · rw [max_eq_left hmore]
    refine (n.fits_get_allocatable r).of_le (by omega) ?_
    rw [balance]
    omega

theorem extra_free_without
    (hroom : (n.pods.map (·.request.extra name)).sum ≤ n.allocatable.extra name) :
    (free { n with pods := others }).extra name = v.request.extra name + n.free.extra name := by
  have hwithout := hfits.without hrequests h
  have hrequested := hfits.extra_requested_nonneg hrequests name
  have hrest := hwithout.extra_requested_nonneg (forall_others h hrequests) name
  have hv := (hrequests v (h.mem_iff.2 (List.mem_cons_self ..))).2 name
  have hsum := sum_map_of_perm h (·.request.extra name)
  rw [← hfits.extra_requested] at hsum
  rw [← hfits.extra_requested] at hroom
  have hwithin : 0 ≤ n.allocatable.extra name := hrequested.trans hroom
  have hfree : (free { n with pods := others }).extra name =
      max (n.allocatable.extra name - (requested { n with pods := others }).extra name) 0 :=
    extra_free (n := { n with pods := others }) hwithin hrest
  rw [hfree, extra_free hwithin hrequested, hwithout.extra_requested]
  dsimp only
  omega

end InRange

theorem request_le_of_selectVictim {p : Pod} (hselect : n.selectVictim p = some v)
    (hnonzero : v.request.isZero = false) (r : Native) :
    p.request.get r ≤ Word.add (v.request.get r) (n.free.get r) := by
  obtain ⟨_, _, _, _, hzero | hcovers⟩ := selectVictim_spec hselect
  · rw [hzero] at hnonzero
    cases hnonzero
  · exact hcovers r

/-- On a node that is not over-full, what is lacking for a pod once its victim is gone are exactly
the extended resources that the victim and the free room together do not give. -/
theorem lacking_without_victim {p : Pod} (hrequests : ∀ q ∈ n.pods, q.request.AllNonneg)
    (hheld : ∀ q ∈ n.reservations, q.Nonneg)
    (hnative : ∀ r, (n.pods.map (·.request.get r)).sum + (n.reservations.map (·.get r)).sum ≤
      n.allocatable.get r)
    (hextra : ∀ name, (n.pods.map (·.request.extra name)).sum +
      (n.reservations.map (·.extra name)).sum ≤ n.allocatable.extra name)
    (hpods : 0 < n.allocatable.pods → (n.pods.length : Int) ≤ n.allocatable.pods)
    (hselect : n.selectVictim p = some v) (hnonzero : v.request.isZero = false)
    (hperm : n.pods.Perm (v :: others)) :
    insufficientResources p.request { n with pods := others } =
      (p.request.extended.entries.filter fun e ↦
        v.request.extra e.1 + n.free.extra e.1 < e.2).map fun e ↦ "Insufficient " ++ e.1 := by
  have hv : v.request.AllNonneg := hrequests v (hperm.mem_iff.2 (List.mem_cons_self ..))
  have hextras (name : String) :
      (n.pods.map (·.request.extra name)).sum ≤ n.allocatable.extra name := by
    have hwithin := hextra name
    rwa [sum_extra_reservations, Int.add_zero] at hwithin
  have hfits : n.InRange := .of_le hrequests hheld hnative hextras
  have hbalance (r : Native) : 0 ≤ n.balance r := by
    have hwithin := hnative r
    rw [balance]
    omega
  have hwithin (r : Native) : 0 ≤ n.allocatable.get r := by
    have hrequested := hfits.get_requested_nonneg hrequests r
    have hreserved := hfits.get_reserved_nonneg hheld r
    have hleft := hbalance r
    rw [balance, ← hfits.get_requested, ← hfits.get_reserved] at hleft
    omega
  have hfreeExtra (name : String) : (free { n with pods := others }).extra name =
      v.request.extra name + n.free.extra name :=
    hfits.extra_free_without hrequests hperm (hextras name)
  have hplace : 0 < n.allocatable.pods → (others.length : Int) + 1 ≤ n.allocatable.pods := by
    intro hlimit
    have hlength := hpods hlimit
    rw [hperm.length_eq, List.length_cons] at hlength
    omega
  have hcovered : ∀ r, p.request.get r ≤ (free { n with pods := others }).get r := by
    intro r
    have hchosen := request_le_of_selectVictim hselect hnonzero r
    rw [hfits.get_request_add_free hrequests hperm hheld (hwithin r)] at hchosen
    rw [hfits.get_free_without hrequests hperm hheld (hwithin r)]
    have hleft := hbalance r
    omega
  have hspare : ∀ name, 0 ≤ (free { n with pods := others }).extra name := by
    intro name
    have hrequested := hfits.extra_requested_nonneg hrequests name
    have hroom := hextras name
    rw [← hfits.extra_requested] at hroom
    rw [hfreeExtra name, extra_free (hrequested.trans hroom) hrequested]
    exact Int.add_nonneg (hv.2 name) (Int.le_max_right _ _)
  rw [insufficientResources_of_native (n := { n with pods := others }) hplace hcovered hspare]
  simp only [hfreeExtra]

namespace Accelerated

/-! One core and one accelerator, and an urgent pod that wants both. -/

def both : ResourceList := .ofList [("cpu", "1000m"), ("nvidia.com/gpu", "1")]

def wantsBoth : Container := { resources := some { requests := some both } }

def holder : Pod where
  metadata := { name := some "holder" }
  spec := some { containers := [wantsBoth] }
  status := some { phase := some Pod.runningPhase }

def urgent : Pod where
  metadata := { name := some "urgent" }
  spec := some { containers := [wantsBoth], priority := some 10 }

def full : NodeInfo where
  node := { metadata := { name := some "n1" }, status := some { allocatable := some both } }
  pods := [holder]

theorem selectVictim_full : full.selectVictim urgent = some holder := by
  have heligible : full.isEligibleVictim urgent holder = true := by decide +kernel
  change ([holder].mergeSort _).find? _ = _
  rw [List.mergeSort_singleton, List.find?_cons_of_pos heligible]

theorem selectVictim_bare :
    Scheduler.Crowded.full.selectVictim urgent = some Scheduler.Crowded.settled := by
  have heligible :
      Scheduler.Crowded.full.isEligibleVictim urgent Scheduler.Crowded.settled = true := by
    decide +kernel
  change ([Scheduler.Crowded.settled].mergeSort _).find? _ = _
  rw [List.mergeSort_singleton, List.find?_cons_of_pos heligible]

end Accelerated

open Accelerated in
/-- The victim held the accelerator, so the urgent pod fits without it. -/
theorem lacking_without_victim_holder : full.selectVictim urgent = some holder ∧
    insufficientResources urgent.request { full with pods := [] } = [] := by
  have hreservations : full.reservations = [] := rfl
  have hpods : full.pods = [holder] := rfl
  have hrequest : holder.request = full.allocatable := by decide +kernel
  refine ⟨selectVictim_full, ?_⟩
  rw [lacking_without_victim (by decide +kernel) (fun q hq ↦ absurd hq List.not_mem_nil)
    (fun r ↦ ?_) (fun name ↦ ?_) (fun hlimit ↦ absurd hlimit (by decide +kernel))
    selectVictim_full (by decide +kernel) (List.Perm.refl [holder])]
  · decide +kernel
  · simp [hreservations, hpods, hrequest]
  · simp [hreservations, hpods, hrequest]

open Accelerated in
/-- Without an accelerator on the node, its only pod is chosen all the same, and the urgent pod does
not fit once that pod is gone. -/
theorem victim_frees_no_accelerator :
    let n := Scheduler.Crowded.full
    (∀ q ∈ urgent :: n.pods, q.request.AllNonneg) ∧ n.allocatable.AllNonneg ∧
      n.reservations = [] ∧
      (∀ r, (n.pods.map (·.request.get r)).sum + (n.reservations.map (·.get r)).sum ≤
        n.allocatable.get r) ∧
      (∀ name, (n.pods.map (·.request.extra name)).sum +
        (n.reservations.map (·.extra name)).sum ≤ n.allocatable.extra name) ∧
      n.allocatable.pods = 0 ∧ n.selectVictim urgent = some Scheduler.Crowded.settled ∧
      Scheduler.Crowded.settled.request.isZero = false ∧
      insufficientResources urgent.request { n with pods := [] } =
        ["Insufficient nvidia.com/gpu"] := by
  intro n
  have hreservations : n.reservations = [] := rfl
  have hpods : n.pods = [Scheduler.Crowded.settled] := rfl
  have hrequest : Scheduler.Crowded.settled.request = n.allocatable := by decide +kernel
  refine ⟨by decide +kernel, by decide +kernel, rfl, fun r ↦ ?_, fun name ↦ ?_,
    by decide +kernel, selectVictim_bare, by decide +kernel, by decide +kernel⟩
  · simp [hreservations, hpods, hrequest]
  · simp [hreservations, hpods, hrequest]

end NodeInfo

end PodPlacement
