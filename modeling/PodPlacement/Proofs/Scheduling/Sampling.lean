import PodPlacement.Scheduling.Sampling
import Mathlib.Data.List.Perm.Subperm

/-!
What sampling finds: suitable candidates only, none of them twice, and as many as the target asks
for unless the whole pool has fewer. Neither the order of the pool nor the order in which the
results of a batch come in makes a difference to how many are found.
-/

namespace PodPlacement

variable {α : Type} (suits : α → Bool)

/-- A batch adds its suitable members in the order of their arrival, as many as are still wanted. -/
theorem collectArrivals_eq {target : Nat} {found : List α} (arrivals : List α)
    (hlt : found.length < target) :
    collectArrivals suits target found arrivals =
      found ++ (arrivals.filter suits).take (target - found.length) := by
  induction arrivals generalizing found with
  | nil => simp [collectArrivals]
  | cons a rest ih =>
    unfold collectArrivals
    by_cases ha : suits a = true
    · rw [if_pos ha, List.filter_cons_of_pos ha]
      obtain ⟨wanted, hw⟩ : ∃ k, target - found.length = k + 1 :=
        ⟨target - found.length - 1, by omega⟩
      rw [hw, List.take_succ_cons]
      by_cases hlast : target ≤ found.length + 1
      · have : wanted = 0 := by omega
        rw [if_pos hlast, this, List.take_zero]
      · have hlen : (found ++ [a]).length = found.length + 1 := by simp
        rw [if_neg hlast, ih (by omega), hlen, List.append_assoc, List.singleton_append]
        have : target - (found.length + 1) = wanted := by omega
        rw [this]
    · rw [if_neg ha, List.filter_cons_of_neg ha]
      exact ih hlt

theorem filter_arrivals_perm (arrive : Arrival α) (batch : List α) :
    ((arrive.order batch).filter suits).Perm (batch.filter suits) :=
  (arrive.perm batch).filter suits

theorem sample_round {target : Nat} (arrive : Arrival α) {found pool : List α}
    (hlt : found.length < target) (hne : pool ≠ []) :
    sample suits target arrive found pool =
      sample suits target arrive
        (found ++ ((arrive.order (pool.drop (pool.length - 2 * target))).filter suits).take
          (target - found.length))
        (pool.take (pool.length - 2 * target)) := by
  rw [sample, dif_pos ⟨hlt, hne⟩, ← collectArrivals_eq suits _ hlt]

/-- Sampling goes on from what is found already: it adds suitable members of the pool at distinct
places and stops at the target or at the end of the pool. -/
theorem sample_extends {target : Nat} (arrive : Arrival α) (found pool : List α)
    (hle : found.length ≤ target) :
    ∃ taken, sample suits target arrive found pool = found ++ taken ∧
      taken.Subperm (pool.filter suits) ∧
      (found ++ taken).length = min target (found.length + pool.countP suits) := by
  induction found, pool using sample.induct suits target arrive with
  | case1 found pool hgo cut ih =>
    obtain ⟨hlt, hne⟩ := hgo
    let arrived := (arrive.order (pool.drop cut)).filter suits
    let wanted := target - found.length
    have hperm : arrived.Perm ((pool.drop cut).filter suits) := filter_arrivals_perm suits arrive _
    have hlen : arrived.length = (pool.drop cut).countP suits := by
      rw [hperm.length_eq, List.countP_eq_length_filter]
    have hcount : (pool.take cut).countP suits + (pool.drop cut).countP suits =
        pool.countP suits := by
      rw [← List.countP_append, List.take_append_drop]
    have hfound : (found ++ arrived.take wanted).length =
        found.length + min wanted arrived.length := by
      rw [List.length_append, List.length_take]
    rw [collectArrivals_eq suits _ hlt] at ih
    obtain ⟨taken, heq, hsub, hsize⟩ :=
      ih (by change (found ++ arrived.take wanted).length ≤ _; omega)
    refine ⟨arrived.take wanted ++ taken, ?_, ?_, ?_⟩
    · rw [sample_round suits arrive hlt hne, heq, List.append_assoc]
    · have hsplit : pool.filter suits =
          (pool.take cut).filter suits ++ (pool.drop cut).filter suits := by
        rw [← List.filter_append, List.take_append_drop]
      rw [hsplit]
      have hbatch : (arrived.take wanted).Subperm ((pool.drop cut).filter suits) :=
        ((List.take_sublist _ _).subperm).trans hperm.subperm
      exact (hbatch.append hsub).trans List.perm_append_comm.subperm
    · rw [← List.append_assoc, hsize]
      change min target ((found ++ arrived.take wanted).length + _) = _
      omega
  | case2 found pool hstop =>
    refine ⟨[], ?_, List.nil_subperm, ?_⟩
    · rw [sample, dif_neg hstop, List.append_nil]
    · rw [List.append_nil]
      by_cases hlt : found.length < target
      · have : pool = [] := by
          by_contra hne
          exact hstop ⟨hlt, hne⟩
        subst this
        simp only [List.countP_nil]
        omega
      · omega

theorem sample_subperm (target : Nat) (arrive : Arrival α) (pool : List α) :
    (sample suits target arrive [] pool).Subperm (pool.filter suits) := by
  obtain ⟨taken, heq, hsub, _⟩ := sample_extends suits arrive [] pool (Nat.zero_le target)
  rw [heq]
  exact hsub

theorem length_sample (target : Nat) (arrive : Arrival α) (pool : List α) :
    (sample suits target arrive [] pool).length = min target (pool.countP suits) := by
  obtain ⟨taken, heq, _, hlen⟩ := sample_extends suits arrive [] pool (Nat.zero_le target)
  rw [heq, hlen, List.length_nil, Nat.zero_add]

/-! ### Without a target -/

/-- Candidates are told apart by their places, so putting them in the order of their places leaves
no choice. -/
theorem eq_of_mem_zipIdx {l : List α} {a b : α × Nat} (ha : a ∈ l.zipIdx) (hb : b ∈ l.zipIdx)
    (h : a.2 = b.2) : a = b := by
  have ha' := List.mem_zipIdx_iff_getElem?.1 ha
  have hb' := List.mem_zipIdx_iff_getElem?.1 hb
  rw [h, hb'] at ha'
  exact Prod.ext (Option.some.inj ha').symm h

theorem zipIdx_pairwise_le (l : List α) (k : Nat) :
    (l.zipIdx k).Pairwise fun a b ↦ a.2 ≤ b.2 := by
  induction l generalizing k with
  | nil => exact .nil
  | cons a l ih =>
    refine List.pairwise_cons.2 ⟨fun b hb ↦ ?_, ih (k + 1)⟩
    have := List.le_snd_of_mem_zipIdx hb
    omega

theorem filter_zipIdx_map_fst (l : List α) :
    (l.zipIdx.filter fun e ↦ suits e.1).map (·.1) = l.filter suits := by
  have h := List.filter_map (f := fun e : α × Nat ↦ e.1) (p := suits) (l := l.zipIdx)
  rw [List.zipIdx_map_fst] at h
  exact h.symm

theorem examineAll_eq (arrive : Arrival (α × Nat)) (candidates : List α) :
    examineAll suits arrive candidates = candidates.filter suits := by
  let suited := (arrive.order candidates.zipIdx).filter fun e ↦ suits e.1
  let inPlace := candidates.zipIdx.filter fun e ↦ suits e.1
  have hperm : (suited.mergeSort fun a b ↦ a.2 ≤ b.2).Perm inPlace :=
    (List.mergeSort_perm _ _).trans (filter_arrivals_perm (fun e ↦ suits e.1) arrive _)
  have hsorted : (suited.mergeSort fun a b ↦ a.2 ≤ b.2).Pairwise fun a b ↦ a.2 ≤ b.2 := by
    refine (List.pairwise_mergeSort (fun a b c hab hbc ↦ ?_) (fun a b ↦ ?_) suited).imp
      of_decide_eq_true
    · simp only [decide_eq_true_eq] at *
      omega
    · simp only [Bool.or_eq_true, decide_eq_true_eq]
      omega
  have hplaces : inPlace.Pairwise fun a b ↦ a.2 ≤ b.2 := (zipIdx_pairwise_le _ 0).filter _
  have heq : (suited.mergeSort fun a b ↦ a.2 ≤ b.2) = inPlace := by
    refine hperm.eq_of_pairwise (fun a b ha hb hab hba ↦ ?_) hsorted hplaces
    have ha' := List.mem_of_mem_filter (hperm.mem_iff.1 ha)
    exact eq_of_mem_zipIdx ha' (List.mem_of_mem_filter hb) (Nat.le_antisymm hab hba)
  change (suited.mergeSort fun a b ↦ a.2 ≤ b.2).map (·.1) = _
  rw [heq]
  exact filter_zipIdx_map_fst suits candidates

/-! ### Places -/

theorem zipIdx_places_nodup (l : List α) : (l.zipIdx.map (·.2)).Nodup := by
  rw [List.zipIdx_map_snd]
  exact List.nodup_range'

/-- Members of a list at distinct places of it that suit, as many as there are up to the target. -/
structure IsSample (target : Nat) (l found : List α) : Prop where
  suited : ∀ a ∈ found, suits a = true
  places : ∃ places : List Nat, places.Nodup ∧ found.map some = places.map (l[·]?)
  length : found.length = min target (l.countP suits)

variable (target : Nat) (arrive : Arrival (α × Nat)) (l : List α)

theorem sample_zipIdx_subperm :
    ((sample (fun e ↦ suits e.1) target arrive [] l.zipIdx).map (·.1)).Subperm
      (l.filter suits) := by
  obtain ⟨kept, hperm, hsub⟩ := sample_subperm (fun e ↦ suits e.1) target arrive l.zipIdx
  refine ⟨kept.map (·.1), hperm.map _, ?_⟩
  rw [← filter_zipIdx_map_fst]
  exact hsub.map _

theorem sample_zipIdx_isSample :
    IsSample suits target l
      ((sample (fun e ↦ suits e.1) target arrive [] l.zipIdx).map (·.1)) := by
  let found := sample (fun e ↦ suits e.1) target arrive [] l.zipIdx
  have hsub : found.Subperm (l.zipIdx.filter fun e ↦ suits e.1) := sample_subperm _ _ _ _
  refine ⟨fun a ha ↦ ?_, ⟨found.map (·.2), ?_, ?_⟩, ?_⟩
  · have hmem := (sample_zipIdx_subperm suits target arrive l).subset ha
    exact (List.mem_filter.1 hmem).2
  · obtain ⟨kept, hperm, hkept⟩ := hsub.trans (List.filter_sublist ..).subperm
    exact (hperm.map _).nodup_iff.1 ((zipIdx_places_nodup l).sublist (hkept.map _))
  · rw [List.map_map, List.map_map]
    refine List.map_congr_left fun e he ↦ ?_
    have hmem := (List.mem_filter.1 (hsub.subset he)).1
    exact (List.mem_zipIdx_iff_getElem?.1 hmem).symm
  · have hcount : l.zipIdx.countP (fun e ↦ suits e.1) = l.countP suits := by
      rw [List.countP_eq_length_filter, ← List.length_map Prod.fst, filter_zipIdx_map_fst,
        List.countP_eq_length_filter]
    rw [List.length_map, length_sample, hcount]

theorem IsSample.eq_nil_iff {target : Nat} {l found : List α} (h : IsSample suits target l found)
    (htarget : 1 ≤ target) : found = [] ↔ ∀ a ∈ l, suits a = false := by
  rw [← List.length_eq_zero_iff, h.length]
  constructor
  · intro hzero
    have hcount : l.countP suits = 0 := by omega
    intro a ha
    exact Bool.eq_false_iff.2 (List.countP_eq_zero.1 hcount a ha)
  · intro hnone
    have hcount : l.countP suits = 0 :=
      List.countP_eq_zero.2 fun a ha ↦ by rw [hnone a ha]; exact Bool.false_ne_true
    omega

/-! ### The target -/

theorem one_le_sampleSize (percentage total : Nat) : 1 ≤ sampleSize percentage total :=
  Nat.le_max_left _ _

theorem sampleSize_le {percentage total : Nat} (h : 1 ≤ total) :
    sampleSize percentage total ≤ total := by
  have hshare : max 1 (min percentage 100) ≤ 100 := by omega
  have hmul := Nat.mul_le_mul_left total hshare
  unfold sampleSize
  omega

end PodPlacement
