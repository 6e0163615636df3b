import Mathlib.Data.List.Perm.Basic
import Mathlib.Tactic.MkIffOfInductiveProp
import PodPlacement.Matching.Toleration

/-!
Which taints are tolerated. Only tolerations that can match a soft taint count for one, more
tolerations tolerate more, and the order of neither list matters for whether all is tolerated.
-/

namespace PodPlacement

/-- The toleration is for the effect and the key of the taint, or for all of them, and for its
value, or for any. An operator that is not known is for nothing. -/
@[mk_iff]
structure Toleration.Covers (t : Toleration) (taint : Taint) : Prop where
  effect : t.effect.getD "" = "" ∨ t.effect.getD "" = taint.effect
  key : t.key.getD "" = "" ∨ t.key.getD "" = taint.key
  value : t.operator = some "Exists" ∨
    (t.operator = none ∨ t.operator = some "" ∨ t.operator = some "Equal") ∧
      t.value.getD "" = taint.value.getD ""

def Tolerated (tolerations : List Toleration) (taint : Taint) : Prop :=
  ∃ t ∈ tolerations, t.Covers taint

variable {t : Toleration} {taint : Taint} {tolerations tolerations' : List Toleration}
  {taints taints' : List Taint} {matters : Taint → Bool}

theorem Toleration.tolerates_iff : t.tolerates taint = true ↔ t.Covers taint := by
  rw [covers_iff, ← and_assoc]
  simp only [tolerates, Bool.and_eq_true, Bool.or_eq_true, String.isEmpty_iff, beq_iff_eq]
  refine and_congr_right fun _ ↦ ?_
  cases t.operator with
  | none => simp
  | some operator =>
    simp only [Option.getD_some, Option.some.injEq]
    split <;> simp_all

theorem toleratedBy_iff : toleratedBy tolerations taint = true ↔ Tolerated tolerations taint := by
  simp only [toleratedBy, List.any_eq_true, Toleration.tolerates_iff, Tolerated]

instance (tolerations : List Toleration) : DecidablePred (Tolerated tolerations) :=
  fun _ ↦ decidable_of_iff _ toleratedBy_iff

theorem Tolerated.mono (h : Tolerated tolerations taint) (hsub : tolerations ⊆ tolerations') :
    Tolerated tolerations' taint := by
  obtain ⟨t, ht, hcovers⟩ := h
  exact ⟨t, hsub ht, hcovers⟩

theorem tolerated_perm (h : tolerations.Perm tolerations') :
    Tolerated tolerations taint ↔ Tolerated tolerations' taint :=
  ⟨fun hold ↦ hold.mono h.subset, fun hold ↦ hold.mono h.symm.subset⟩

theorem Toleration.Covers.coversSoft (h : t.Covers taint) (hsoft : taint.isSoft = true) :
    t.coversSoft = true := by
  have heffect := h.effect
  rw [Taint.isSoft, beq_iff_eq] at hsoft
  rw [hsoft] at heffect
  simpa [Toleration.coversSoft] using heffect

/-- For a soft taint nothing is lost with the tolerations that are left out. -/
theorem tolerated_coversSoft_iff (hsoft : taint.isSoft = true) :
    Tolerated (tolerations.filter (·.coversSoft)) taint ↔ Tolerated tolerations taint := by
  constructor
  · intro h
    exact h.mono (List.filter_subset_self _)
  · rintro ⟨t, ht, hcovers⟩
    exact ⟨t, List.mem_filter.2 ⟨ht, hcovers.coversSoft hsoft⟩, hcovers⟩

/-! ### The first that is not tolerated -/

theorem firstUntolerated_eq_none_iff : firstUntolerated taints tolerations matters = none ↔
    ∀ taint ∈ taints, matters taint = true → Tolerated tolerations taint := by
  simp only [firstUntolerated, List.find?_eq_none, List.mem_filter, Bool.not_eq_true',
    Bool.not_eq_false, toleratedBy_iff, and_imp]

@[mk_iff]
structure FirstUntolerated (tolerations : List Toleration) (matters : Taint → Bool)
    (taints : List Taint) (taint : Taint) : Prop where
  relevant : matters taint = true
  untolerated : ¬Tolerated tolerations taint
  first : ∃ before after, taints = before ++ taint :: after ∧
    ∀ t ∈ before, matters t = true → Tolerated tolerations t

theorem firstUntolerated_eq_some_iff : firstUntolerated taints tolerations matters = some taint ↔
    FirstUntolerated tolerations matters taints taint := by
  have hstops (t : Taint) : decide (matters t = true ∧ (!toleratedBy tolerations t) = true) = true ↔
      matters t = true ∧ ¬Tolerated tolerations t := by
    rw [decide_eq_true_iff, Bool.not_eq_true', ← Bool.not_eq_true, toleratedBy_iff]
  have hpasses (t : Taint) :
      (!decide (matters t = true ∧ (!toleratedBy tolerations t) = true)) = true ↔
        (matters t = true → Tolerated tolerations t) := by
    rw [Bool.not_eq_true', ← Bool.not_eq_true, hstops, not_and, not_not]
  simp only [firstUntolerated, List.find?_filter, List.find?_eq_some_iff_append, hstops, hpasses,
    firstUntolerated_iff, and_assoc]

end PodPlacement
