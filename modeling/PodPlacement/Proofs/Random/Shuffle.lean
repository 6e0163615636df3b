import PodPlacement.Random.Shuffle
import Mathlib.Tactic.ByContra

/-!
Draws stay below their bound, and shuffling only changes the order.
-/

namespace PodPlacement

namespace Generator

theorem next32_lt (g : Generator) : g.next32.1 < wordCount := by
  unfold next32
  exact BitVec.isLt _

/-- Evening out the remainder adds one only where the bound is not reached. -/
theorem below_lt (g : Generator) {n : Nat} (hn : 0 < n) : (g.below n).1 < n := by
  unfold below
  rcases hx : g.next32 with ⟨x, g'⟩
  have hlt : x < wordCount := by
    have h := next32_lt g
    rwa [hx] at h
  have hprod : x * n + n ≤ wordCount * n := by
    have h := Nat.mul_le_mul_right n (Nat.succ_le_of_lt hlt)
    rwa [Nat.succ_mul] at h
  have hhigh : x * n / wordCount < n := by
    rw [Nat.div_lt_iff_lt_mul (by decide), Nat.mul_comm n]
    omega
  have hsplit := Nat.div_add_mod (x * n) wordCount
  dsimp only
  split
  · next hlow =>
    have hroom : x * n / wordCount + 1 < n := by
      by_contra hfull
      have hlast : x * n / wordCount = n - 1 := by omega
      rw [hlast] at hsplit
      have : wordCount * (n - 1) = wordCount * n - wordCount := by
        rw [Nat.mul_sub, Nat.mul_one]
      omega
    obtain ⟨y, g''⟩ := g'.next32
    dsimp only
    split <;> omega
  · exact hhigh

end Generator

variable {α : Type}

theorem swapAt_perm (xs : Array α) (i j : Nat) : (swapAt xs i j).Perm xs := by
  unfold swapAt
  split
  · exact Array.swap_perm _ _
  · exact .refl _

theorem shuffleFrom_perm (xs : Array α) (c : ChoiceSource) (g : Generator) (places : List Nat) :
    (shuffleFrom xs c g places).1.Perm xs := by
  induction places generalizing xs c g with
  | nil => exact .refl _
  | cons i rest ih => exact (ih _ _ _).trans (swapAt_perm _ _ _)

theorem shuffle_perm (xs : List α) (g : Generator) : (shuffle xs g).1.Perm xs := by
  unfold shuffle
  split
  · exact .refl _
  · exact Array.perm_iff_toList_perm.1 (shuffleFrom_perm xs.toArray {} g _)

end PodPlacement
