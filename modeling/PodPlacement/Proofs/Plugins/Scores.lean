import PodPlacement.Plugins.InTree
import PodPlacement.Proofs.Double.Ratio
import PodPlacement.Proofs.Table

/-!
Each plugin that scores keeps to the range of scores, whatever the pod, the node and the counts,
once it finds the note that its score relies on.
-/

namespace PodPlacement.Plugins

def InRange (x : Int) : Prop := minScore ≤ x ∧ x ≤ maxScore

instance : DecidablePred InRange := fun _ ↦ inferInstanceAs (Decidable (_ ∧ _))

theorem inRange_zero : InRange 0 := by decide

/-- Shares of the highest score, the way all plugins that compare a part with a whole take them. -/
theorem inRange_share {part whole : Int} (hpos : 0 < whole) (h : 0 ≤ part) (h' : part ≤ whole) :
    InRange (maxScore * part / whole) := by
  have hmax : 0 ≤ maxScore := by decide
  constructor
  · exact Int.ediv_nonneg (Int.mul_nonneg hmax h) hpos.le
  · exact Int.ediv_le_of_le_mul hpos (Int.mul_le_mul_of_nonneg_left h' hmax)

theorem TaintToleration.inRange_softScore (tolerations : List Toleration) (taints : List Taint) :
    InRange (softScore tolerations taints) := by
  simp only [softScore]
  split
  · decide
  · next hsome =>
    have hpos : 0 < (taints.filter (·.isSoft)).length :=
      List.length_pos_iff.2 fun hnil ↦ hsome (List.isEmpty_iff.2 hnil)
    refine inRange_share (by omega) (by omega) ?_
    exact Int.ofNat_le.2 (List.length_filter_le _ _)

namespace NodeAffinity

theorem totalWeight_eq_sum (terms : List PreferredNodeTerm) :
    totalWeight terms = (terms.map fun t ↦ max t.weight 0).sum := by
  rw [List.sum_eq_foldl, List.foldl_map]
  rfl

theorem totalWeight_nonneg (terms : List PreferredNodeTerm) : 0 ≤ totalWeight terms := by
  rw [totalWeight_eq_sum]
  refine List.sum_nonneg fun x hx ↦ ?_
  obtain ⟨t, _, rfl⟩ := List.mem_map.1 hx
  exact Int.le_max_right _ _

theorem totalWeight_filter_le (terms : List PreferredNodeTerm) (keep : PreferredNodeTerm → Bool) :
    totalWeight (terms.filter keep) ≤ totalWeight terms := by
  rw [totalWeight_eq_sum, totalWeight_eq_sum]
  refine (List.filter_sublist.map _).sum_le_sum fun x hx ↦ ?_
  obtain ⟨t, _, rfl⟩ := List.mem_map.1 hx
  exact Int.le_max_right _ _

theorem inRange_preferenceScore (terms : List PreferredNodeTerm) (n : Node) :
    InRange (preferenceScore terms n) := by
  simp only [preferenceScore]
  split
  · exact inRange_zero
  · next hne =>
    have hwhole := totalWeight_nonneg terms
    exact inRange_share (by omega) (totalWeight_nonneg _) (totalWeight_filter_le terms _)

end NodeAffinity

theorem ImageLocality.inRange_scaleSize (containers : Nat) (size : Int) :
    InRange (scaleSize containers size) := by
  have hhigh : maxContainerSize ≤ maxContainerSize * (max containers 1 : Nat) := by
    refine le_mul_of_one_le_right (by decide) ?_
    exact Int.ofNat_le.2 (Nat.le_max_right _ _)
  have hspread : minSize < maxContainerSize := by decide
  have hscale : scaleSize containers size =
      maxScore * (max minSize (min size (maxContainerSize * (max containers 1 : Nat))) - minSize) /
        (maxContainerSize * (max containers 1 : Nat) - minSize) := rfl
  rw [hscale]
  generalize maxContainerSize * ((max containers 1 : Nat) : Int) = high at hhigh
  exact inRange_share (by omega) (by omega) (by omega)

namespace InterPodAffinity

theorem min_le_of_mem {xs : List Int} {x : Int} (h : x ∈ xs) : xs.min?.getD 0 ≤ x := by
  cases hmin : xs.min? with
  | none => rw [List.min?_eq_none_iff.1 hmin] at h; cases h
  | some low => exact (List.min?_eq_some_iff.1 hmin).2 x h

theorem le_max_of_mem {xs : List Int} {x : Int} (h : x ∈ xs) : x ≤ xs.max?.getD 0 := by
  cases hmax : xs.max? with
  | none => rw [List.max?_eq_none_iff.1 hmax] at h; cases h
  | some high => exact (List.max?_eq_some_iff.1 hmax).2 x h

theorem inRange_normalize (raw : List (String × Int)) : ∀ e ∈ normalize raw, InRange e.2 := by
  intro e he
  obtain ⟨x, hx, rfl⟩ := List.mem_map.1 he
  have hlow := min_le_of_mem (List.mem_map_of_mem (f := (·.2)) hx)
  have hhigh := le_max_of_mem (List.mem_map_of_mem (f := (·.2)) hx)
  dsimp only
  split
  · exact inRange_share (by omega) (by omega) (by omega)
  · exact inRange_zero

theorem inRange_getD (raw : List (String × Int)) (node : String) :
    InRange ((Table.ofList (normalize raw)).getD node 0) := by
  cases hget : (Table.ofList (normalize raw)).get? node with
  | none =>
    rw [Table.getD, hget]
    exact inRange_zero
  | some x =>
    rw [Table.getD, hget]
    exact inRange_normalize raw (node, x) (Table.mem_of_mem_ofList (Table.get?_eq_some_iff.1 hget))

end InterPodAffinity

/-! ### Falling off -/

/-- What is relied on of the exponential function: of nothing above zero it is from zero to one. -/
def Damps (exp : Float → Float) : Prop := ∀ x : Float, x ≤ 0 → 0 ≤ exp x ∧ exp x ≤ 1

open Double in
theorem inRange_decay {exp : Float → Float} (hexp : Damps exp) {ratio : Float}
    (h : sign? ratio.toModel.unpack = some .positive) : InRange (decay exp ratio) := by
  obtain ⟨hlow, hhigh⟩ := hexp _ (neg_five_mul_nonpos h)
  exact (atMost_one hlow hhigh).hundred_mul.wholePart (by decide)

theorem ResourcePriority.inRange_loadScore (exp : Float → Float) (used capacity : Int) :
    InRange (loadScore exp used capacity) := by
  simp only [loadScore]
  split
  · exact inRange_zero
  · exact ⟨Int.le_max_left _ _, Int.max_le.2 ⟨by decide, Int.min_le_right _ _⟩⟩

/-! ### Notes -/

theorem read?_write (notes : CycleState) (key key' : String) (e : CycleEntry) :
    (notes.write key e).read? key' = if key' = key then some e else notes.read? key' :=
  Table.get?_insert ..

def TaintToleration.Noted (notes : CycleState) : Prop :=
  ∃ tolerations, notes.read? note = some (.softTolerations tolerations)

def InterPodAffinity.Noted (notes : CycleState) : Prop :=
  ∃ scores, notes.read? scoreNote = some (.nodeScores scores) ∧
    ∀ node, InRange (scores.getD node 0)

/-- A plugin of this name finds the note that its score relies on, if it relies on one. -/
structure Noted (notes : CycleState) (name : String) : Prop where
  tolerations : name = TaintToleration.name → TaintToleration.Noted notes
  nodeScores : name = InterPodAffinity.name → InterPodAffinity.Noted notes

variable {plugin : Plugin} {env : Surroundings} {notes : CycleState} {p : Pod} {n : NodeInfo}

theorem TaintToleration.preScore_noted (nodes : List NodeInfo) :
    ∃ notes', preScore notes p nodes = (.success, notes') ∧ Noted notes' ∧
      (InterPodAffinity.Noted notes → InterPodAffinity.Noted notes') := by
  have hother : InterPodAffinity.scoreNote ≠ note := by decide
  refine ⟨_, rfl, ⟨_, by rw [read?_write, if_pos rfl]⟩, fun h ↦ ?_⟩
  rwa [InterPodAffinity.Noted, read?_write, if_neg hother]

theorem InterPodAffinity.preScore_noted (nodes : List NodeInfo) :
    ∃ notes', preScore notes p nodes = (.success, notes') ∧ Noted notes' ∧
      (TaintToleration.Noted notes → TaintToleration.Noted notes') := by
  have hother : TaintToleration.note ≠ scoreNote := by decide
  refine ⟨_, rfl, ⟨_, by rw [read?_write, if_pos rfl], inRange_getD _⟩, fun h ↦ ?_⟩
  rwa [TaintToleration.Noted, read?_write, if_neg hother]

theorem preScore_cases (hplugin : plugin ∈ inTree) {run : PreScore}
    (hrun : plugin.preScore = some run) :
    (plugin.name = TaintToleration.name ∧ run = TaintToleration.preScore) ∨
      (plugin.name = InterPodAffinity.name ∧ run = InterPodAffinity.preScore) := by
  fin_cases hplugin <;> cases hrun
  · exact .inl ⟨rfl, rfl⟩
  · exact .inr ⟨rfl, rfl⟩

/-- A plugin that prepares succeeds; it leaves its own note and spares those of the others. -/
theorem preScore_noted (hplugin : plugin ∈ inTree) {run : PreScore}
    (hrun : plugin.preScore = some run) (nodes : List NodeInfo) :
    ∃ notes', run notes p nodes = (.success, notes') ∧ Noted notes' plugin.name ∧
      ∀ name, Noted notes name → Noted notes' name := by
  have hdistinct : TaintToleration.name ≠ InterPodAffinity.name := by decide
  rcases preScore_cases hplugin hrun with ⟨hname, rfl⟩ | ⟨hname, rfl⟩
  · obtain ⟨notes', hstep, hnoted, hkept⟩ := TaintToleration.preScore_noted nodes
    rw [hname]
    exact ⟨notes', hstep, ⟨fun _ ↦ hnoted, fun h ↦ absurd h hdistinct⟩,
      fun name h ↦ ⟨fun _ ↦ hnoted, fun hn ↦ hkept (h.nodeScores hn)⟩⟩
  · obtain ⟨notes', hstep, hnoted, hkept⟩ := InterPodAffinity.preScore_noted nodes
    rw [hname]
    exact ⟨notes', hstep, ⟨fun h ↦ absurd h.symm hdistinct, fun _ ↦ hnoted⟩,
      fun name h ↦ ⟨fun hn ↦ hkept (h.tolerations hn), fun _ ↦ hnoted⟩⟩

/-! ### Every score -/

theorem TaintToleration.score_inRange (h : Noted notes) :
    ∃ x, score env notes p n = .ok x ∧ InRange x := by
  obtain ⟨tolerations, hnote⟩ := h
  rw [score, hnote]
  exact ⟨_, rfl, inRange_softScore tolerations n.node.taints⟩

theorem InterPodAffinity.score_inRange (h : Noted notes) :
    ∃ x, score env notes p n = .ok x ∧ InRange x := by
  obtain ⟨scores, hnote, hrange⟩ := h
  rw [score, hnote]
  exact ⟨_, rfl, hrange n.name⟩

theorem ImageLocality.score_inRange : ∃ x, score env notes p n = .ok x ∧ InRange x := by
  unfold score
  cases p.spec with
  | none => exact ⟨0, rfl, inRange_zero⟩
  | some spec => exact ⟨_, rfl, inRange_scaleSize _ _⟩

theorem RepeatPriority.score_inRange (hexp : Damps env.exp) (husage : env.usage.highest < 2 ^ 64) :
    ∃ x, score env notes p n = .ok x ∧ InRange x :=
  ⟨_, rfl, inRange_decay hexp
    (Double.sign?_ratio (Nat.le_max_right _ _) (Nat.max_lt.2 ⟨husage, by decide⟩))⟩

theorem score_inRange (hplugin : plugin ∈ inTree) {run : Score} (hrun : plugin.score = some run)
    (hexp : Damps env.exp) (husage : env.usage.highest < 2 ^ 64)
    (hnoted : Noted notes plugin.name) :
    ∃ x, run env notes p n = .ok x ∧ InRange x := by
  fin_cases hplugin <;> cases hrun
  · exact TaintToleration.score_inRange (hnoted.tolerations rfl)
  · exact ⟨_, rfl, NodeAffinity.inRange_preferenceScore _ _⟩
  · exact InterPodAffinity.score_inRange (hnoted.nodeScores rfl)
  · exact ImageLocality.score_inRange
  · exact ⟨_, rfl, ResourcePriority.inRange_loadScore _ _ _⟩
  · exact RepeatPriority.score_inRange hexp husage

end PodPlacement.Plugins
