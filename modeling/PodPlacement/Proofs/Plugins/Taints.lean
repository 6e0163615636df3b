import PodPlacement.Proofs.Matching.Toleration
import PodPlacement.Proofs.Plugins.Scores

/-!
The checks of taints agree with each other. The score may keep to the tolerations that were put
aside for it, a cordon is judged as the taint that stands for it, and none of the checks depends on
an order or turns against a pod that tolerates more.
-/

namespace PodPlacement.Plugins

variable {p q : Pod} {n m : NodeInfo} {taint : Taint} {taints taints' : List Taint}
  {tolerations tolerations' : List Toleration} {env : Surroundings} {notes : CycleState}

theorem isSuccess_iff_of_code {status : Status} {passes : Prop} [Decidable passes]
    (h : status.code = if passes then .success else .unresolvable) :
    status.isSuccess = true ↔ passes := by
  rw [Status.isSuccess, beq_iff_eq, h]
  split_ifs with hpasses
  · exact iff_of_true rfl hpasses
  · exact iff_of_false nofun hpasses

namespace TaintToleration

/-! ### The score -/

theorem softScore_mono (h : ∀ taint : Taint, taint.isSoft = true →
      Tolerated tolerations taint → Tolerated tolerations' taint) :
    softScore tolerations taints ≤ softScore tolerations' taints := by
  have hcount : (taints.filter (·.isSoft)).countP (toleratedBy tolerations) ≤
      (taints.filter (·.isSoft)).countP (toleratedBy tolerations') := by
    apply List.countP_mono_left
    intro taint htaint htolerated
    rw [toleratedBy_iff] at htolerated ⊢
    exact h taint (List.mem_filter.1 htaint).2 htolerated
  rw [List.countP_eq_length_filter, List.countP_eq_length_filter] at hcount
  simp only [softScore]
  split
  · exact le_rfl
  · next hsome =>
    have hpos : 0 < (taints.filter (·.isSoft)).length :=
      List.length_pos_iff.2 fun hnil ↦ hsome (List.isEmpty_iff.2 hnil)
    refine Int.ediv_le_ediv (by omega) ?_
    exact Int.mul_le_mul_of_nonneg_left (Int.ofNat_le.2 hcount) (by decide)

theorem softScore_congr (h : ∀ taint : Taint, taint.isSoft = true →
      (Tolerated tolerations taint ↔ Tolerated tolerations' taint)) :
    softScore tolerations taints = softScore tolerations' taints :=
  le_antisymm (softScore_mono fun t ht ↦ (h t ht).1) (softScore_mono fun t ht ↦ (h t ht).2)

theorem softScore_perm (h : taints.Perm taints') :
    softScore tolerations taints = softScore tolerations taints' := by
  have hsoft := h.filter (·.isSoft)
  simp only [softScore, hsoft.isEmpty_eq, hsoft.length_eq, (hsoft.filter _).length_eq]

theorem read?_preScore (notes : CycleState) (p : Pod) (nodes : List NodeInfo) :
    (preScore notes p nodes).2.read? note =
      some (.softTolerations (p.tolerations.filter (·.coversSoft))) := by
  change (notes.write note _).read? note = _
  rw [read?_write, if_pos rfl]

/-- The score is what it would be with all tolerations of the pod at hand. -/
theorem score_preScore (env : Surroundings) (notes : CycleState) (p : Pod) (nodes : List NodeInfo)
    (n : NodeInfo) :
    score env (preScore notes p nodes).2 p n = .ok (softScore p.tolerations n.node.taints) := by
  rw [score, read?_preScore]
  exact congrArg _ (softScore_congr fun _ hsoft ↦ tolerated_coversSoft_iff hsoft)

/-! ### The filter -/

def HardTolerated (tolerations : List Toleration) (taints : List Taint) : Prop :=
  ∀ taint ∈ taints, taint.isHard = true → Tolerated tolerations taint

instance (tolerations : List Toleration) (taints : List Taint) :
    Decidable (HardTolerated tolerations taints) :=
  inferInstanceAs (Decidable (∀ taint ∈ taints, taint.isHard = true → Tolerated tolerations taint))

theorem HardTolerated.mono (h : HardTolerated tolerations taints)
    (hsub : tolerations ⊆ tolerations') (htaints : taints' ⊆ taints) :
    HardTolerated tolerations' taints' :=
  fun taint htaint hhard ↦ (h taint (htaints htaint) hhard).mono hsub

theorem hardTolerated_perm (h : tolerations.Perm tolerations') (htaints : taints.Perm taints') :
    HardTolerated tolerations taints ↔ HardTolerated tolerations' taints' :=
  ⟨fun hold ↦ hold.mono h.subset htaints.symm.subset,
    fun hold ↦ hold.mono h.symm.subset htaints.subset⟩

theorem filter_cases (env : Surroundings) (notes : CycleState) (p : Pod) (n : NodeInfo) :
    HardTolerated p.tolerations n.node.taints ∧ filter env notes p n = .success ∨
      ∃ taint, FirstUntolerated p.tolerations Taint.isHard n.node.taints taint ∧
        filter env notes p n = .unresolvable (describe taint) := by
  rw [filter]
  cases hfirst : firstUntolerated n.node.taints p.tolerations Taint.isHard with
  | none => exact .inl ⟨firstUntolerated_eq_none_iff.1 hfirst, rfl⟩
  | some taint => exact .inr ⟨taint, firstUntolerated_eq_some_iff.1 hfirst, rfl⟩

theorem not_hardTolerated_of_first
    (h : FirstUntolerated tolerations Taint.isHard taints taint) :
    ¬HardTolerated tolerations taints := by
  obtain ⟨before, after, rfl, -⟩ := h.first
  intro hall
  exact h.untolerated (hall taint (by simp) h.relevant)

/-- The code does not tell which taint it is about. -/
theorem code_filter : (filter env notes p n).code =
    if HardTolerated p.tolerations n.node.taints then .success else .unresolvable := by
  rcases filter_cases env notes p n with ⟨hall, h⟩ | ⟨taint, hfirst, h⟩
  · rw [h, if_pos hall]
    rfl
  · rw [h, if_neg (not_hardTolerated_of_first hfirst)]
    rfl

theorem isSuccess_filter_iff : (filter env notes p n).isSuccess = true ↔
    HardTolerated p.tolerations n.node.taints := isSuccess_iff_of_code code_filter

end TaintToleration

/-! ### The cordon -/

namespace NodeUnschedulable

structure IsCordon (taint : Taint) : Prop where
  key : taint.key = "node.kubernetes.io/unschedulable"
  effect : taint.effect = "NoSchedule"
  value : taint.value = none

theorem IsCordon.tolerated_iff (h : IsCordon taint) :
    Tolerated tolerations taint ↔ Tolerated tolerations cordonTaint := by
  simp only [Tolerated, Toleration.covers_iff, h.key, h.effect, h.value]
  rfl

theorem IsCordon.hardTolerated_iff (h : IsCordon taint) :
    TaintToleration.HardTolerated tolerations [taint] ↔ Tolerated tolerations cordonTaint := by
  have hhard : taint.isHard = true := by simp [Taint.isHard, h.effect, Taint.noSchedule]
  rw [TaintToleration.HardTolerated, List.forall_mem_singleton, h.tolerated_iff]
  exact forall_prop_of_true hhard

theorem code_filter : (filter env notes p n).code =
    if n.node.unschedulable = true → Tolerated p.tolerations cordonTaint then .success
    else .unresolvable := by
  have hpasses : (!n.node.unschedulable || toleratedBy p.tolerations cordonTaint) = true ↔
      (n.node.unschedulable = true → Tolerated p.tolerations cordonTaint) := by
    rw [Bool.or_eq_true, Bool.not_eq_true', ← Bool.not_eq_true, toleratedBy_iff, imp_iff_not_or]
  rw [filter, Status.check]
  split_ifs with hbool hprop hprop
  · rfl
  · exact absurd (hpasses.1 hbool) hprop
  · exact absurd (hpasses.2 hprop) hbool
  · rfl

theorem isSuccess_filter_iff : (filter env notes p n).isSuccess = true ↔
    (n.node.unschedulable = true → Tolerated p.tolerations cordonTaint) :=
  isSuccess_iff_of_code code_filter

end NodeUnschedulable

namespace TaintToleration

/-- The shortcuts of the checks make no difference: the score does with the tolerations that were
kept for it, and a cordon weighs as much as its taint. -/
theorem taint_checks_agree (env : Surroundings) (notes : CycleState) (p : Pod)
    (nodes : List NodeInfo) (n : NodeInfo) :
    let scored (p : Pod) (n : NodeInfo) := score env (preScore notes p nodes).2 p n
    let judged (p : Pod) (n : NodeInfo) := filter env notes p n
    let admitted (p : Pod) (n : NodeInfo) := NodeUnschedulable.filter env notes p n
    (∃ kept, (preScore notes p nodes).2.read? note = some (.softTolerations kept) ∧
      (∀ taint : Taint, taint.isSoft = true →
        (Tolerated kept taint ↔ Tolerated p.tolerations taint)) ∧
      scored p n = .ok (softScore kept n.node.taints) ∧
      scored p n = .ok (softScore p.tolerations n.node.taints)) ∧
    ((judged p n).isSuccess = true ↔
      ∀ taint ∈ n.node.taints, taint.isHard = true → Tolerated p.tolerations taint) ∧
    ((judged p n).isSuccess = false → ∃ taint,
      FirstUntolerated p.tolerations Taint.isHard n.node.taints taint ∧
      judged p n = .unresolvable ("node(s) had untolerated taint \x7b" ++ taint.key ++ ": " ++
        taint.value.getD "" ++ "\x7d")) ∧
    (n.node.unschedulable = true → ∀ (m : NodeInfo) (taint : Taint),
      m.node.taints = [taint] → NodeUnschedulable.IsCordon taint →
        (admitted p n).code = (judged p m).code) ∧
    (∀ (q : Pod) (m : NodeInfo), q.tolerations.Perm p.tolerations →
      m.node.taints.Perm n.node.taints →
        (judged q m).code = (judged p n).code ∧ scored q m = scored p n ∧
        (m.node.unschedulable = n.node.unschedulable →
          (admitted q m).code = (admitted p n).code)) ∧
    ∀ (q : Pod) (t : Toleration), q.tolerations.Perm (t :: p.tolerations) →
      ((judged p n).isSuccess = true → (judged q n).isSuccess = true) ∧
      ((admitted p n).isSuccess = true → (admitted q n).isSuccess = true) ∧
      ∃ x y, scored p n = .ok x ∧ scored q n = .ok y ∧ x ≤ y := by
  intro scored judged admitted
  have hscored (p : Pod) (n : NodeInfo) :
      scored p n = .ok (softScore p.tolerations n.node.taints) :=
    score_preScore env notes p nodes n
  refine ⟨?kept, ?passes, ?names, ?cordon, ?order, ?more⟩
  case kept =>
    refine ⟨_, read?_preScore notes p nodes, fun taint ↦ tolerated_coversSoft_iff, ?_, hscored p n⟩
    rw [hscored]
    exact congrArg _ (softScore_congr fun taint hsoft ↦ (tolerated_coversSoft_iff hsoft).symm)
  case passes => exact isSuccess_filter_iff
  case names =>
    intro hrejected
    rcases filter_cases env notes p n with ⟨hall, -⟩ | hnamed
    · rw [isSuccess_filter_iff.2 hall] at hrejected
      cases hrejected
    · exact hnamed
  case cordon =>
    intro hcordon m taint htaints htaint
    simp only [admitted, judged, NodeUnschedulable.code_filter, code_filter, htaints,
      htaint.hardTolerated_iff, hcordon, forall_const]
  case order =>
    intro q m htolerations htaints
    refine ⟨?_, ?_, fun hcordon ↦ ?_⟩
    · simp only [judged, code_filter, hardTolerated_perm htolerations htaints]
    · rw [hscored, hscored, softScore_perm htaints]
      exact congrArg _ (softScore_congr fun taint _ ↦ tolerated_perm htolerations)
    · simp only [admitted, NodeUnschedulable.code_filter, hcordon, tolerated_perm htolerations]
  case more =>
    intro q t htolerations
    have hsub : p.tolerations ⊆ q.tolerations := fun e he ↦
      htolerations.mem_iff.2 (List.mem_cons_of_mem t he)
    refine ⟨fun h ↦ ?_, fun h ↦ ?_, _, _, hscored p n, hscored q n, ?_⟩
    · exact isSuccess_filter_iff.2 ((isSuccess_filter_iff.1 h).mono hsub (List.Subset.refl _))
    · refine NodeUnschedulable.isSuccess_filter_iff.2 fun hcordon ↦ ?_
      exact (NodeUnschedulable.isSuccess_filter_iff.1 h hcordon).mono hsub
    · exact softScore_mono fun taint _ htolerated ↦ htolerated.mono hsub

namespace Mixed

/-! A cordoned node with taints of all effects, and a pod that puts up with some of them. -/

def guest : Pod where
  spec := some { tolerations := some [{ key := some "spot", operator := some "Exists" },
    { key := some "dedicated", value := some "db", effect := some Taint.noSchedule }] }

def sturdier : Pod where
  spec := some { tolerations := some (
    { operator := some "Exists", effect := some Taint.noExecute } :: guest.tolerations) }

def tainted (taints : List Taint) : NodeInfo where
  node := { spec := some { taints := some taints, unschedulable := some true } }
  pods := []

def shelf : NodeInfo := tainted
  [{ key := "spot", effect := Taint.preferNoSchedule },
    { key := "edge", effect := Taint.preferNoSchedule },
    { key := "dedicated", value := some "db", effect := Taint.noSchedule },
    { key := "dedicated", value := some "web", effect := Taint.noExecute }]

def blank : CycleState := { snapshot := .empty }

end Mixed

open Mixed in
theorem taint_checks_agree_mixed :
    score {} (preScore blank guest [shelf]).2 guest shelf = .ok 50 ∧
    (∃ taint, FirstUntolerated guest.tolerations Taint.isHard shelf.node.taints taint ∧
      filter {} blank guest shelf = .unresolvable ("node(s) had untolerated taint \x7b" ++
        taint.key ++ ": " ++ taint.value.getD "" ++ "\x7d")) ∧
    (filter {} blank sturdier shelf).isSuccess = true ∧
    (NodeUnschedulable.filter {} blank guest shelf).code =
      (filter {} blank guest (tainted [NodeUnschedulable.cordonTaint])).code := by
  obtain ⟨⟨kept, -, -, -, hscore⟩, hpasses, hnames, hcordon, -, -⟩ :=
    taint_checks_agree {} blank guest [shelf] shelf
  obtain ⟨-, hpasses', -⟩ := taint_checks_agree {} blank sturdier [shelf] shelf
  have hhalf : softScore guest.tolerations shelf.node.taints = 50 := by decide +kernel
  have hrejected : (filter {} blank guest shelf).isSuccess = false := by
    rw [← Bool.not_eq_true, hpasses]
    decide +kernel
  exact ⟨hhalf ▸ hscore, hnames hrejected, hpasses'.2 (by decide +kernel),
    hcordon rfl _ NodeUnschedulable.cordonTaint rfl ⟨rfl, rfl, rfl⟩⟩

end TaintToleration

end PodPlacement.Plugins
