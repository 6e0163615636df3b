import PodPlacement.Plugins.InTree
import PodPlacement.Proofs.Double.Nearest
import PodPlacement.Proofs.Framework.Usage

/-!
How often a node was chosen of late, as scores read it: exactly the placements since all counts last
started over, in proportion to the most that any node has.
-/

namespace PodPlacement.Plugins.RepeatPriority

open Usage (after fresh recent Highest)

theorem share_bounds {count highest : Nat} (h : count ≤ highest) (hpos : 0 < highest)
    (hhighest : highest < 2 ^ 64) :
    0 ≤ Float.ofNat count / Float.ofNat highest ∧ Float.ofNat count / Float.ofNat highest ≤ 1 :=
  ⟨Double.zero_le_of_positive (Double.sign?_ratio hpos hhighest),
    Double.ratio_le_one h hpos hhighest⟩

/-- All counts start over at the placement that is one too many on its node and at no other; between
two such placements each count is exact, and so is the highest of them. -/
theorem usage_exact (threshold : Nat) (placed : List String) :
    (∀ node, (fresh threshold).factor node = (0, 1)) ∧
    (∀ node, (after threshold placed).increase node = fresh threshold ↔
      (recent threshold placed).count node + 1 = threshold + 1) ∧
    (threshold = 0 → ∀ node, (after threshold placed).increase node = fresh threshold) ∧
    ∃ highest, Highest (recent threshold placed) highest ∧
      1 ≤ highest ∧ highest ≤ max 1 threshold ∧
      (∀ node, (after threshold placed).factor node =
          ((recent threshold placed).count node, highest) ∧
        (recent threshold placed).count node ≤ highest) ∧
      (threshold < 2 ^ 64 → ∀ (env : Surroundings) (notes : CycleState) (p : Pod) (n : NodeInfo),
        let ratio := Float.ofNat ((recent threshold placed).count n.name) / Float.ofNat highest
        score { env with usage := after threshold placed } notes p n =
          .ok (decay env.exp ratio) ∧ 0 ≤ ratio ∧ ratio ≤ 1) := by
  have htallies := Usage.tallies_after threshold placed
  have hthreshold := Usage.threshold_after threshold placed
  have hpos := htallies.highest.one_le
  have hle := htallies.highest_le
  have hcount (node : String) : (after threshold placed).factor node =
      ((recent threshold placed).count node, (after threshold placed).highest) :=
    Prod.ext (htallies.count_eq node) rfl
  have hreset := htallies.increase_eq_fresh_iff
  have hkept := htallies.count_le_threshold
  rw [hthreshold] at hle hreset hkept
  refine ⟨fun _ ↦ rfl, ?_, ?_, _, htallies.highest, hpos, hle, ?_, ?_⟩
  · intro node
    rw [Nat.add_right_cancel_iff]
    exact hreset node
  · intro hzero node
    apply (hreset node).2
    have hnode := hkept node
    omega
  · intro node
    exact ⟨hcount node, htallies.highest.count_le node⟩
  · intro hsmall env notes p n
    have hbound := hle.trans_lt (Nat.max_lt.2 ⟨by decide, hsmall⟩)
    refine ⟨?_, share_bounds (htallies.highest.count_le n.name) hpos hbound⟩
    simp only [score, hcount, max_eq_left hpos]

def placedOften : List String := ["a", "a", "a", "b"]

def chosenOnce : NodeInfo := { node := { metadata := { name := some "b" } }, pods := [] }

theorem usage_exact_at_three : 3 < 2 ^ 64 ∧
    (after 3 placedOften).increase "a" = fresh 3 ∧ (after 3 placedOften).increase "b" ≠ fresh 3 ∧
    (after 3 placedOften).factor "b" = (1, 3) ∧
    0 ≤ Float.ofNat 1 / Float.ofNat 3 ∧ Float.ofNat 1 / Float.ofNat 3 ≤ 1 := by
  have hsmall : 3 < 2 ^ 64 := by decide
  have honce : (recent 3 placedOften).count "b" = 1 := by decide +kernel
  have hfactor : (after 3 placedOften).factor "b" = (1, 3) := by decide +kernel
  obtain ⟨-, hreset, -, highest, -, -, -, hcounts, hratio⟩ := usage_exact 3 placedOften
  have hhighest : highest = 3 := by
    have hpair := (hcounts "b").1
    rw [hfactor] at hpair
    exact (congrArg Prod.snd hpair).symm
  have hbounds := (hratio hsmall {} { snapshot := .empty } {} chosenOnce).2
  have hname : chosenOnce.name = "b" := rfl
  rw [hname, honce, hhighest] at hbounds
  refine ⟨hsmall, (hreset "a").2 (by decide +kernel), ?_, hfactor, hbounds⟩
  intro hb
  exact absurd ((hreset "b").1 hb) (by decide +kernel)

end PodPlacement.Plugins.RepeatPriority
