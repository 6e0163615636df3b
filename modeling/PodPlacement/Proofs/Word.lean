import Mathlib.Algebra.BigOperators.Group.List.Basic
import Mathlib.Algebra.Ring.Int.Defs
import PodPlacement.Word

/-!
What 64 bits make of a sum is what they make of the integer that it comes to, however often it wraps
on the way. So the order of the terms makes no difference, and a sum that fits is exact.
-/

namespace PodPlacement.Word

variable {n a b : Int} {ns ms : List Int}

theorem fits_iff : Fits n ↔ -0x8000000000000000 ≤ n ∧ n ≤ 0x7fffffffffffffff := .rfl

theorem fits_zero : Fits 0 := by decide

theorem Fits.of_le (hb : Fits b) (ha : 0 ≤ a) (hab : a ≤ b) : Fits a := by
  rw [fits_iff] at hb ⊢
  omega

theorem fits_wrap (n : Int) : Fits (wrap n) := by
  have hlow : -((0x10000000000000000 : Nat) / 2 : Int) ≤ wrap n := Int.le_bmod (by decide)
  have hhigh : wrap n < ((0x10000000000000000 : Nat) + 1 : Int) / 2 := Int.bmod_lt (by decide)
  rw [fits_iff]
  omega

theorem fits_add (a b : Int) : Fits (add a b) := fits_wrap _

theorem wrap_of_fits (h : Fits n) : wrap n = n := by
  rw [fits_iff] at h
  apply Int.bmod_eq_of_le <;> omega

theorem wrap_wrap_add (a b : Int) : wrap (wrap a + b) = wrap (a + b) := Int.bmod_add_bmod

theorem wrap_add_wrap (a b : Int) : wrap (a + wrap b) = wrap (a + b) := Int.add_bmod_bmod

theorem add_wrap_wrap (a b : Int) : add (wrap a) (wrap b) = wrap (a + b) := by
  rw [add, wrap_wrap_add, wrap_add_wrap]

theorem mul_comm (a b : Int) : mul a b = mul b a := congrArg wrap (Int.mul_comm a b)

theorem fits_sub (ha : 0 ≤ a) (ha' : Fits a) (hb : 0 ≤ b) (hb' : Fits b) : Fits (a - b) := by
  rw [fits_iff] at ha' hb' ⊢
  omega

theorem add_of_fits (h : Fits (a + b)) : add a b = a + b := wrap_of_fits h

theorem sub_of_fits (h : Fits (a - b)) : sub a b = a - b := wrap_of_fits h

theorem add_comm (a b : Int) : add a b = add b a := congrArg wrap (Int.add_comm a b)

theorem zero_add (h : Fits a) : add 0 a = a := by
  rw [add, Int.zero_add, wrap_of_fits h]

theorem add_zero (h : Fits a) : add a 0 = a := by
  rw [add, Int.add_zero, wrap_of_fits h]

theorem add_right_comm (a b c : Int) : add (add a b) c = add (add a c) b := by
  simp only [add, wrap_wrap_add, Int.add_right_comm]

/-- A difference that is too large by less than one range comes out below zero. -/
theorem sub_neg_of_lt (h : 0x7fffffffffffffff < a - b) (h' : a - b < 0x10000000000000000) :
    sub a b < 0 := by
  have hwrapped : sub a b = a - b - 0x10000000000000000 := by
    rw [sub, wrap, ← Int.sub_bmod_right]
    apply wrap_of_fits
    rw [fits_iff]
    omega
  omega

/-! ### Sums -/

theorem foldl_add (h : Fits a) (ns : List Int) : ns.foldl add a = wrap (a + ns.sum) := by
  induction ns generalizing a with
  | nil => rw [List.foldl_nil, List.sum_nil, Int.add_zero, wrap_of_fits h]
  | cons n ns ih =>
    rw [List.foldl_cons, ih (fits_add ..), add, wrap_wrap_add, List.sum_cons, Int.add_assoc]

theorem sum_eq (ns : List Int) : sum ns = wrap ns.sum := by
  rw [sum, foldl_add fits_zero, Int.zero_add]

theorem fits_sum (ns : List Int) : Fits (sum ns) := by
  rw [sum_eq]
  exact fits_wrap _

theorem sum_of_fits (h : Fits ns.sum) : sum ns = ns.sum := by
  rw [sum_eq, wrap_of_fits h]

theorem sum_cons (n : Int) (ns : List Int) : sum (n :: ns) = add n (sum ns) := by
  rw [sum_eq, sum_eq, List.sum_cons, add, wrap_add_wrap]

theorem sum_perm (h : ns.Perm ms) : sum ns = sum ms := by
  rw [sum_eq, sum_eq, h.sum_eq]

end PodPlacement.Word
