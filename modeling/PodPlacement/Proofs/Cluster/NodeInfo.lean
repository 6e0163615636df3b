import Mathlib.Algebra.Order.BigOperators.Group.List
import PodPlacement.Plugins.Room
import PodPlacement.Proofs.Resource.Extended
import PodPlacement.Scheduling.Eviction
import PodPlacement.Scheduling.Victim

/-!
What a node's pods and conditions come to in each resource, and what follows for it when a pod fits
or when evicting another would make it fit.
-/

namespace PodPlacement

def heldBack (r : Native) (reason : String) : Int :=
  ((Amounts.ofReservation reason).toOption.map (·.get r)).getD 0

/-- Reason and message of each condition that holds room back. -/
def Node.claims (n : Node) : List (String × Option String) :=
  n.preemptionConditions.map fun c ↦ (c.reason.getD "", c.message)

theorem sum_map_of_perm {α : Type} {xs ys : List α} {a : α} (h : xs.Perm (a :: ys))
    (f : α → Int) : (xs.map f).sum = f a + (ys.map f).sum := by
  rw [(h.map f).sum_eq, List.map_cons, List.sum_cons]

namespace NodeInfo

variable (n : NodeInfo) (r : Native)

theorem get_requested : n.requested.get r = Word.sum (n.pods.map (·.request.get r)) := by
  rw [requested, Amounts.get_foldl_add, List.map_map]
  rfl

theorem get_reserved : n.reserved.get r = Word.sum (n.reservations.map (·.get r)) :=
  Amounts.get_foldl_add r n.reservations

theorem sum_reservations : (n.reservations.map (·.get r)).sum =
    (n.node.claims.map fun c ↦ heldBack r c.1).sum := by
  rw [reservations, Node.claims, List.map_map]
  induction n.node.preemptionConditions with
  | nil => rfl
  | cons c cs ih =>
    cases hread : Amounts.ofReservation (c.reason.getD "") with
    | error _ =>
      rw [List.filterMap_cons_none (by rw [hread]; rfl), ih, List.map_cons, List.sum_cons,
        Function.comp_apply, heldBack, hread]
      exact (Int.zero_add _).symm
    | ok q =>
      rw [List.filterMap_cons_some (b := q) (by rw [hread]; rfl), List.map_cons, List.sum_cons, ih,
        List.map_cons, List.sum_cons, Function.comp_apply, heldBack, hread]
      rfl

theorem get_headroom_nonneg : 0 ≤ n.headroom.get r := Amounts.get_sub_nonneg ..

theorem get_free_nonneg : 0 ≤ n.free.get r := Amounts.get_sub_nonneg ..

theorem fits_get_allocatable : Word.Fits (n.allocatable.get r) := Amounts.fits_get_ofList ..

theorem fits_get_requested : Word.Fits (n.requested.get r) := by
  rw [get_requested]
  exact Word.fits_sum _

theorem fits_get_reserved : Word.Fits (n.reserved.get r) := by
  rw [get_reserved]
  exact Word.fits_sum _

variable {n r} in
/-- Where nothing is negative no difference leaves the range. -/
theorem get_free (hallocatable : 0 ≤ n.allocatable.get r) (hrequested : 0 ≤ n.requested.get r)
    (hreserved : 0 ≤ n.reserved.get r) : n.free.get r =
      max (max (n.allocatable.get r - n.requested.get r) 0 - n.reserved.get r) 0 := by
  have hheadroom : n.headroom.get r = max (n.allocatable.get r - n.requested.get r) 0 := by
    rw [headroom, Amounts.get_sub, Word.sub_of_fits]
    exact Word.fits_sub hallocatable (n.fits_get_allocatable r) hrequested (n.fits_get_requested r)
  rw [free, Amounts.get_sub, Word.sub_of_fits, hheadroom]
  exact Word.fits_sub (n.get_headroom_nonneg r) (Amounts.fits_get_sub r _ _) hreserved
    (n.fits_get_reserved r)

variable {n} in
theorem extended_of_mem_reservations {q : Amounts} (h : q ∈ n.reservations) : q.extended = ∅ := by
  obtain ⟨c, _, hc⟩ := List.mem_filterMap.1 h
  cases hread : Amounts.ofReservation (c.reason.getD "") with
  | error _ =>
    rw [hread] at hc
    cases hc
  | ok _ =>
    rw [hread] at hc
    cases hc
    exact Amounts.extended_ofReservation hread

theorem extended_reserved : n.reserved.extended = ∅ :=
  Amounts.extended_foldl_add (fun _ ↦ extended_of_mem_reservations) rfl

variable {name : String}

theorem extra_requested (name : String) :
    n.requested.extra name = Word.sum (n.pods.map (·.request.extra name)) := by
  rw [requested, Amounts.extra_foldl_add, List.map_map]
  rfl

theorem fits_extra_allocatable (name : String) : Word.Fits (n.allocatable.extra name) :=
  Amounts.fits_extra_ofList ..

theorem sum_extra_reservations (name : String) :
    (n.reservations.map (·.extra name)).sum = 0 := by
  apply List.sum_eq_zero
  intro x hx
  obtain ⟨q, hq, rfl⟩ := List.mem_map.1 hx
  exact Amounts.extra_eq_zero name (extended_of_mem_reservations hq)

theorem extra_free_eq_headroom (name : String) : n.free.extra name = n.headroom.extra name :=
  Amounts.extra_sub_of_empty name n.extended_reserved n.headroom

variable {n}

theorem extra_free (hallocatable : 0 ≤ n.allocatable.extra name)
    (hrequested : 0 ≤ n.requested.extra name) :
    n.free.extra name = max (n.allocatable.extra name - n.requested.extra name) 0 := by
  have hfits := n.fits_extra_allocatable name
  have hfits' : Word.Fits (n.requested.extra name) := by
    rw [extra_requested]
    exact Word.fits_sum _
  rw [extra_free_eq_headroom, headroom, Amounts.extra_sub name hallocatable hfits,
    Word.sub_of_fits (Word.fits_sub hallocatable hfits hrequested hfits')]

variable (n) in
structure AllNonneg : Prop where
  allocatable : n.allocatable.AllNonneg
  places : 0 ≤ n.allocatable.pods
  requests : ∀ p ∈ n.pods, p.request.AllNonneg
  reservations : ∀ q ∈ n.reservations, q.Nonneg

section Sums

variable {pods : List Pod}

theorem sum_get_nonneg (h : ∀ p ∈ pods, p.request.AllNonneg) (r : Native) :
    0 ≤ (pods.map (·.request.get r)).sum :=
  List.sum_nonneg (List.forall_mem_map.2 fun p hp ↦ (h p hp).1 r)

theorem sum_extra_nonneg (h : ∀ p ∈ pods, p.request.AllNonneg) (name : String) :
    0 ≤ (pods.map (·.request.extra name)).sum :=
  List.sum_nonneg (List.forall_mem_map.2 fun p hp ↦ (h p hp).2 name)

theorem sum_reservations_nonneg (h : ∀ q ∈ n.reservations, q.Nonneg) (r : Native) :
    0 ≤ (n.reservations.map (·.get r)).sum :=
  List.sum_nonneg (List.forall_mem_map.2 fun q hq ↦ h q hq r)

end Sums

/-! ### Sums that fit -/

variable (n) in
/-- 64 bits hold what the conditions of the node hold back together. -/
def HeldInRange : Prop := ∀ r, Word.Fits (n.reservations.map (·.get r)).sum

variable (n) in
/-- 64 bits hold what the node's pods ask for together, and what its conditions hold back. -/
structure InRange : Prop where
  requests : ∀ r, Word.Fits (n.pods.map (·.request.get r)).sum
  extras : ∀ name, Word.Fits (n.pods.map (·.request.extra name)).sum
  reservations : n.HeldInRange

instance (n : NodeInfo) : Decidable n.HeldInRange :=
  inferInstanceAs (Decidable (∀ r, Word.Fits (n.reservations.map (·.get r)).sum))

theorem HeldInRange.get_reserved (h : n.HeldInRange) (r : Native) :
    n.reserved.get r = (n.reservations.map (·.get r)).sum := by
  rw [NodeInfo.get_reserved, Word.sum_of_fits (h r)]

/-- No other extended resource is asked for. -/
theorem inRange_iff : n.InRange ↔ (∀ r, Word.Fits (n.pods.map (·.request.get r)).sum) ∧
    (∀ name ∈ n.pods.flatMap (·.request.extended.keys),
      Word.Fits (n.pods.map (·.request.extra name)).sum) ∧ n.HeldInRange := by
  refine ⟨fun h ↦ ⟨h.requests, fun name _ ↦ h.extras name, h.reservations⟩, ?_⟩
  rintro ⟨hrequests, hextras, hreservations⟩
  refine ⟨hrequests, fun name ↦ ?_, hreservations⟩
  by_cases hnamed : name ∈ n.pods.flatMap (·.request.extended.keys)
  · exact hextras name hnamed
  · rw [List.sum_eq_zero]
    · exact Word.fits_zero
    · intro x hx
      obtain ⟨p, hp, rfl⟩ := List.mem_map.1 hx
      apply Amounts.extra_of_not_mem_keys
      exact fun hkey ↦ hnamed (List.mem_flatMap.2 ⟨p, hp, hkey⟩)

instance (n : NodeInfo) : Decidable n.InRange := decidable_of_iff _ inRange_iff.symm

namespace InRange

theorem get_requested (h : n.InRange) (r : Native) :
    n.requested.get r = (n.pods.map (·.request.get r)).sum := by
  rw [NodeInfo.get_requested, Word.sum_of_fits (h.requests r)]

theorem get_reserved (h : n.InRange) (r : Native) :
    n.reserved.get r = (n.reservations.map (·.get r)).sum := h.reservations.get_reserved r

theorem extra_requested (h : n.InRange) (name : String) :
    n.requested.extra name = (n.pods.map (·.request.extra name)).sum := by
  rw [NodeInfo.extra_requested, Word.sum_of_fits (h.extras name)]

theorem get_requested_nonneg (h : n.InRange) (hpods : ∀ p ∈ n.pods, p.request.AllNonneg)
    (r : Native) : 0 ≤ n.requested.get r := by
  rw [h.get_requested]
  exact sum_get_nonneg hpods r

theorem get_reserved_nonneg (h : n.InRange) (hheld : ∀ q ∈ n.reservations, q.Nonneg)
    (r : Native) : 0 ≤ n.reserved.get r := by
  rw [h.get_reserved]
  exact sum_reservations_nonneg hheld r

theorem extra_requested_nonneg (h : n.InRange) (hpods : ∀ p ∈ n.pods, p.request.AllNonneg)
    (name : String) : 0 ≤ n.requested.extra name := by
  rw [h.extra_requested]
  exact sum_extra_nonneg hpods name

/-- What stays within what there is fits, as that does. -/
theorem of_le (hpods : ∀ p ∈ n.pods, p.request.AllNonneg) (hheld : ∀ q ∈ n.reservations, q.Nonneg)
    (hnative : ∀ r, (n.pods.map (·.request.get r)).sum + (n.reservations.map (·.get r)).sum ≤
      n.allocatable.get r)
    (hextra : ∀ name, (n.pods.map (·.request.extra name)).sum ≤ n.allocatable.extra name) :
    n.InRange := by
  refine ⟨fun r ↦ ?_, fun name ↦ ?_, fun r ↦ ?_⟩
  · have hwithin := hnative r
    have hreserved := sum_reservations_nonneg hheld r
    exact (n.fits_get_allocatable r).of_le (sum_get_nonneg hpods r) (by omega)
  · exact (n.fits_extra_allocatable name).of_le (sum_extra_nonneg hpods name) (hextra name)
  · have hwithin := hnative r
    have hrequested := sum_get_nonneg hpods r
    exact (n.fits_get_allocatable r).of_le (sum_reservations_nonneg hheld r) (by omega)

end InRange

/-! ### Deciding on a node -/

theorem lacking_eq_nil_iff {what : String} {wanted there : Int} :
    (if there < wanted then ["Insufficient " ++ what] else []) = [] ↔ wanted ≤ there := by
  split <;> simp <;> omega

/-- Nothing is lacking where the node has a place and the request is for nothing, or for no more of
each resource than is free. -/
theorem insufficientResources_eq_nil_iff {q : Amounts} : insufficientResources q n = [] ↔
    (n.allocatable.pods ≤ 0 ∨ (n.pods.length : Int) + 1 ≤ n.allocatable.pods) ∧
      (((∀ r, q.get r = 0) ∧ ∀ e ∈ q.extended.entries, e.2 = 0) ∨
        (∀ r, q.get r ≤ n.free.get r) ∧ ∀ e ∈ q.extended.entries, e.2 ≤ n.free.extra e.1) := by
  have hnothing : (q.isZero && q.extended.values.all (· == 0)) = true ↔
      (∀ r, q.get r = 0) ∧ ∀ e ∈ q.extended.entries, e.2 = 0 := by
    simp [Amounts.isZero_iff, Table.values]
  have hnative : (∀ r, q.get r ≤ n.free.get r) ↔
      (q.cpu ≤ n.free.cpu ∧ q.memory ≤ n.free.memory) ∧ q.ephemeral ≤ n.free.ephemeral := by
    rw [← Amounts.covers_iff]
    simp [Amounts.covers]
  rw [insufficientResources, List.append_eq_nil_iff]
  refine and_congr ?_ ?_
  · split <;> simp <;> omega
  · rw [hnative, ← hnothing]
    split
    · next h => simp [h]
    · next h =>
      rw [or_iff_right h]
      simp only [List.append_eq_nil_iff, lacking_eq_nil_iff, List.flatMap_eq_nil_iff]
      rfl

theorem fits_of_no_reasons {q : Amounts} (h : insufficientResources q n = []) :
    q.get r = 0 ∨ q.get r ≤ n.free.get r := by
  obtain ⟨_, hnothing | hfits⟩ := insufficientResources_eq_nil_iff.1 h
  · exact .inl (hnothing.1 r)
  · exact .inr (hfits.1 r)

/-! ### Choosing a victim -/

/-- What a pod on the node has to be like for `preemptor` to take its place. -/
structure MayEvict (n : NodeInfo) (preemptor p : Pod) : Prop where
  unreserved : ∃ name, p.metadata.name = some name ∧ ∀ c ∈ n.node.conditions,
    c.type = Node.preemptionType → c.message ≠ some (WorkloadKey.text ⟨p.space, name⟩)
  space : p.space = preemptor.space
  running : p.phase = Pod.runningPhase
  priority : p.priority < preemptor.priority
  room : (∀ r, p.request.get r = 0) ∨
    ∀ r, preemptor.request.get r ≤ Word.add (p.request.get r) (n.free.get r)

theorem isReservedVictim_eq_false_iff {key : WorkloadKey} : n.isReservedVictim key = false ↔
    ∀ c ∈ n.node.conditions, c.type = Node.preemptionType → c.message ≠ some key.text := by
  simp [isReservedVictim, Node.preemptionConditions]

theorem isReservedVictim_eq_false {key : WorkloadKey} (h : n.isReservedVictim key = false) :
    ∀ c ∈ n.node.claims, c.2 ≠ some key.text := by
  intro c hc
  obtain ⟨condition, hcondition, rfl⟩ := List.mem_map.1 hc
  obtain ⟨hmem, htype⟩ := List.mem_filter.1 hcondition
  exact isReservedVictim_eq_false_iff.1 h condition hmem (beq_iff_eq.1 htype)

theorem isEligibleVictim_iff {preemptor p : Pod} :
    n.isEligibleVictim preemptor p = true ↔ n.MayEvict preemptor p := by
  have hroom : (p.request.isZero || (p.request + n.free).covers preemptor.request) = true ↔
      (∀ r, p.request.get r = 0) ∨
        ∀ r, preemptor.request.get r ≤ Word.add (p.request.get r) (n.free.get r) := by
    simp only [Bool.or_eq_true, Amounts.isZero_iff, Amounts.covers_iff, Amounts.get_add]
  unfold isEligibleVictim WorkloadKey.ofPod
  cases hname : p.metadata.name with
  | none =>
    refine iff_of_false Bool.false_ne_true fun h ↦ ?_
    obtain ⟨name, hsome, _⟩ := h.unreserved
    simp [hname] at hsome
  | some name =>
    simp only [Bool.and_eq_true, Bool.not_eq_true', beq_iff_eq, decide_eq_true_eq, hroom,
      isReservedVictim_eq_false_iff]
    constructor
    · rintro ⟨⟨⟨⟨hreserved, hspace⟩, hrunning⟩, hpriority⟩, hroom⟩
      exact ⟨⟨name, hname, hreserved⟩, hspace, hrunning, hpriority, hroom⟩
    · rintro ⟨⟨name', hsome, hreserved⟩, hspace, hrunning, hpriority, hroom⟩
      rw [hname, Option.some.injEq] at hsome
      subst hsome
      exact ⟨⟨⟨⟨hreserved, hspace⟩, hrunning⟩, hpriority⟩, hroom⟩

theorem selectVictim_spec {p v : Pod} (h : n.selectVictim p = some v) :
    v ∈ n.pods ∧ ∃ key, WorkloadKey.ofPod v = .ok key ∧ n.isReservedVictim key = false ∧
      (v.request.isZero = true ∨
        ∀ r, p.request.get r ≤ Word.add (v.request.get r) (n.free.get r)) := by
  unfold selectVictim at h
  have hmem := List.mem_mergeSort.1 (List.mem_of_find?_eq_some h)
  obtain ⟨⟨name, hname, hreserved⟩, _, _, _, hroom⟩ := isEligibleVictim_iff.1 (List.find?_some h)
  refine ⟨hmem, ⟨v.space, name⟩, ?_, isReservedVictim_eq_false_iff.2 hreserved,
    hroom.imp_left Amounts.isZero_iff.2⟩
  rw [WorkloadKey.ofPod, hname]

end NodeInfo

/-! ### Reservations on a node -/

namespace Node

variable {n changed : Node}

theorem allocatable_withConditions (n : Node) (conditions : List NodeCondition) :
    (n.withConditions conditions).allocatable = n.allocatable := by
  unfold withConditions allocatable
  cases n.status <;> rfl

theorem reserve?_spec {victim reservation : String} {now : Timestamp}
    (h : n.reserve? victim reservation now = some changed) :
    changed.allocatable = n.allocatable ∧
      changed.claims = n.claims ++ [(reservation, some victim)] := by
  unfold reserve? at h
  split at h
  · cases h
  · cases h
    refine ⟨allocatable_withConditions n _, ?_⟩
    unfold claims preemptionConditions
    change ((n.conditions ++ [_]).filter _).map _ = _
    rw [List.filter_append, List.map_append]
    rfl

theorem release?_spec {victim : String} (h : n.release? victim = some changed) :
    changed.allocatable = n.allocatable ∧
      changed.claims = n.claims.filter fun c ↦ c.2 != some victim := by
  unfold release? at h
  split at h
  · cases h
    refine ⟨allocatable_withConditions n _, ?_⟩
    unfold claims preemptionConditions
    change ((n.conditions.filter _).filter _).map _ = _
    rw [List.filter_map, List.filter_filter, List.filter_filter]
    refine congrArg _ (List.filter_congr fun c _ ↦ ?_)
    simp only [reservesFor, Function.comp_apply, bne]
    cases c.type == preemptionType <;> cases c.message == some victim <;> rfl
  · cases h

end Node

end PodPlacement
