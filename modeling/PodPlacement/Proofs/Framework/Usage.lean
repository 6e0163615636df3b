import Mathlib.Data.List.Induction
import Mathlib.Data.List.Nodup
import Mathlib.Order.Bounds.Basic
import Mathlib.Order.MinMax
import PodPlacement.Framework.Usage

/-!
Counts of use, however the nodes were chosen: each count is that of the placements since all counts
last started over, and the highest of them is kept beside them.
-/

namespace PodPlacement.Usage

/-- Counts that placements lead to, in whatever order the nodes were chosen. -/
def Reachable (threshold : Nat) (u : Usage) : Prop :=
  ∃ placed : List String, u = placed.foldl increase (.fresh threshold)

def after (threshold : Nat) (placed : List String) : Usage :=
  placed.foldl increase (fresh threshold)

/-- One more placement, after which all start over if it is one too many on that node. -/
def thenPlaced (threshold : Nat) (recent : List String) (node : String) : List String :=
  if recent.count node = threshold then [] else recent ++ [node]

def recent (threshold : Nat) (placed : List String) : List String :=
  placed.foldl (thenPlaced threshold) []

/-- The most placements that there are on one node, or one where there are none. -/
def Highest (recent : List String) (n : Nat) : Prop :=
  IsGreatest (insert 1 (Set.range fun node ↦ recent.count node)) n

/-- The counts are those of the placements `recent`, of which no node has too many. -/
structure Tallies (recent : List String) (u : Usage) : Prop where
  count_eq : ∀ node, u.count node = recent.count node
  highest : Highest recent u.highest
  count_le_threshold : ∀ node, recent.count node ≤ u.threshold

variable {threshold n : Nat} {recent : List String} {u : Usage}

theorem Highest.one_le (h : Highest recent n) : 1 ≤ n := h.2 (Set.mem_insert 1 _)

theorem Highest.count_le (h : Highest recent n) (node : String) : recent.count node ≤ n := by
  apply h.2
  exact .inr ⟨node, rfl⟩

theorem highest_nil : Highest [] 1 := by
  constructor
  · exact Set.mem_insert 1 _
  · intro n hn
    rcases hn with rfl | ⟨node, rfl⟩
    · exact le_rfl
    · exact Nat.zero_le 1

theorem count_append_singleton (recent : List String) (node other : String) :
    (recent ++ [node]).count other =
      if other = node then recent.count node + 1 else recent.count other := by
  by_cases hother : other = node
  · simp [hother]
  · simp [hother, Ne.symm hother]

/-- The maximum is kept up without looking at the other nodes. -/
theorem Highest.append (h : Highest recent n) (node : String) :
    Highest (recent ++ [node]) (max n (recent.count node + 1)) := by
  constructor
  · rcases max_choice n (recent.count node + 1) with hmax | hmax
    · have hpassed : recent.count node + 1 ≤ n := max_eq_left_iff.1 hmax
      rw [hmax]
      rcases h.1 with hone | ⟨other, hother⟩
      · exact .inl hone
      · have hne : other ≠ node := by
          intro heq
          simp only [heq] at hother
          omega
        exact .inr ⟨other, by simp only [count_append_singleton, if_neg hne, hother]⟩
    · rw [hmax]
      exact .inr ⟨node, by simp only [count_append_singleton, if_true]⟩
  · intro x hx
    rcases hx with rfl | ⟨other, rfl⟩
    · exact h.one_le.trans (Nat.le_max_left _ _)
    · have hother := h.count_le other
      simp only [count_append_singleton]
      split_ifs
      · exact Nat.le_max_right _ _
      · exact hother.trans (Nat.le_max_left _ _)

theorem Tallies.highest_le (h : Tallies recent u) : u.highest ≤ max 1 u.threshold := by
  rcases h.highest.1 with hone | ⟨node, hnode⟩
  · rw [hone]
    exact Nat.le_max_left _ _
  · rw [← hnode]
    exact (h.count_le_threshold node).trans (Nat.le_max_right _ _)

theorem tallies_fresh (threshold : Nat) : Tallies [] (fresh threshold) where
  count_eq _ := rfl
  highest := highest_nil
  count_le_threshold _ := Nat.zero_le _

/-- It is the highest count that is compared with the threshold, but only the count of the node
that was just chosen can have passed it. -/
theorem Tallies.passes_iff (h : Tallies recent u) (node : String) :
    u.threshold < max u.highest (u.count node + 1) ↔ recent.count node = u.threshold := by
  have hhighest := h.highest_le
  have hcount := h.count_le_threshold node
  rw [h.count_eq]
  omega

theorem Tallies.increase_of_eq (h : Tallies recent u) {node : String}
    (hnode : recent.count node = u.threshold) : u.increase node = fresh u.threshold := by
  simp only [increase, if_pos ((h.passes_iff node).2 hnode)]

theorem Tallies.increase_of_ne (h : Tallies recent u) {node : String}
    (hnode : recent.count node ≠ u.threshold) : u.increase node = { u with
      counts := u.counts.insert node (u.count node + 1)
      highest := max u.highest (u.count node + 1) } := by
  simp only [increase, if_neg (mt (h.passes_iff node).1 hnode)]

theorem Tallies.append (h : Tallies recent u) {node : String}
    (hnode : recent.count node ≠ u.threshold) :
    Tallies (recent ++ [node]) (u.increase node) := by
  have hself := h.count_le_threshold node
  rw [h.increase_of_ne hnode, h.count_eq]
  refine ⟨?_, h.highest.append node, ?_⟩
  · intro other
    simp only [count, Table.getD, Table.get?_insert, count_append_singleton]
    split_ifs
    · rfl
    · exact h.count_eq other
  · intro other
    have hother := h.count_le_threshold other
    rw [count_append_singleton]
    split_ifs
    · exact Nat.lt_of_le_of_ne hself hnode
    · exact hother

theorem Tallies.thenPlaced (h : Tallies recent u) (node : String) :
    Tallies (thenPlaced u.threshold recent node) (u.increase node) := by
  rw [Usage.thenPlaced]
  split_ifs with hnode
  · rw [h.increase_of_eq hnode]
    exact tallies_fresh _
  · exact h.append hnode

theorem threshold_increase (u : Usage) (node : String) :
    (u.increase node).threshold = u.threshold := by
  simp only [increase]
  split <;> rfl

theorem after_append_singleton (threshold : Nat) (placed : List String) (node : String) :
    after threshold (placed ++ [node]) = (after threshold placed).increase node := by
  rw [after, List.foldl_append]
  rfl

theorem threshold_after (threshold : Nat) (placed : List String) :
    (after threshold placed).threshold = threshold := by
  induction placed using List.reverseRecOn with
  | nil => rfl
  | append_singleton placed node ih => rw [after_append_singleton, threshold_increase, ih]

theorem tallies_after (threshold : Nat) (placed : List String) :
    Tallies (Usage.recent threshold placed) (after threshold placed) := by
  induction placed using List.reverseRecOn with
  | nil => exact tallies_fresh threshold
  | append_singleton placed node ih =>
    have hstep := ih.thenPlaced node
    rw [threshold_after] at hstep
    rw [Usage.recent, List.foldl_append, after_append_singleton]
    exact hstep

theorem Reachable.highest_le (h : Reachable threshold u) : u.highest ≤ max 1 threshold := by
  obtain ⟨placed, rfl⟩ := h
  have hle := (tallies_after threshold placed).highest_le
  rwa [threshold_after] at hle

/-- That all starts over shows, since the count of the node would not be zero otherwise. -/
theorem Tallies.increase_eq_fresh_iff (h : Tallies recent u) (node : String) :
    u.increase node = fresh u.threshold ↔ recent.count node = u.threshold := by
  constructor
  · intro hfresh
    by_contra hnode
    have hcount := (h.append hnode).count_eq node
    rw [hfresh] at hcount
    simp [count, fresh, Table.getD] at hcount
  · exact h.increase_of_eq

end PodPlacement.Usage
