/-!
Delays that are not settled in advance, in milliseconds, and how long a wait can get.
-/

namespace PodPlacement

structure Delay where
  low : Nat
  high : Nat
deriving DecidableEq, Repr, Inhabited

namespace Delay

/-- The longest wait there is: thirty years of 365 days. -/
def longestMs : Nat := 30 * 365 * 24 * 60 * 60 * 1000

def boundedMs (ms : Nat) : Nat := min ms longestMs

def fixed (ms : Nat) : Delay := ⟨ms, ms⟩

def pick (d : Delay) (draw : Nat) : Nat := d.low + draw % (d.high - d.low + 1)

theorem low_le_pick (d : Delay) (draw : Nat) : d.low ≤ d.pick draw := Nat.le_add_right ..

theorem pick_le_high {d : Delay} (h : d.low ≤ d.high) (draw : Nat) : d.pick draw ≤ d.high := by
  have hdraw : draw % (d.high - d.low + 1) < d.high - d.low + 1 := Nat.mod_lt _ (Nat.succ_pos _)
  unfold pick
  omega

theorem exists_pick {d : Delay} {ms : Nat} (hlow : d.low ≤ ms) (hhigh : ms ≤ d.high) :
    ∃ draw, d.pick draw = ms := by
  refine ⟨ms - d.low, ?_⟩
  rw [pick, Nat.mod_eq_of_lt (by omega)]
  omega

end Delay

end PodPlacement
