import PodPlacement.Table

/-!
How often each node was chosen of late. All counts start over when one of them passes a threshold.
-/

namespace PodPlacement

structure Usage where
  threshold : Nat
  counts : Table Nat := ∅
  /-- The highest count, and never less than one. -/
  highest : Nat := 1
deriving DecidableEq, Repr, Inhabited

namespace Usage

def defaultThreshold : Nat := 10000

def fresh (threshold : Nat) : Usage := { threshold }

def count (u : Usage) (node : String) : Nat := u.counts.getD node 0

def increase (u : Usage) (node : String) : Usage :=
  let n := u.count node + 1
  let highest := max u.highest n
  if u.threshold < highest then fresh u.threshold
  else { u with counts := u.counts.insert node n, highest }

def factor (u : Usage) (node : String) : Nat × Nat := (u.count node, u.highest)

end Usage

end PodPlacement
