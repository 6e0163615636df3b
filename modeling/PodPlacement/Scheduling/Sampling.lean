/-!
Looking for suitable candidates: either all of them are examined, or batches are drawn from the end
of a pool until enough suitable ones are found. Results of one batch may arrive in any order.
-/

namespace PodPlacement

variable {α : Type}

/-- An order in which the results of a batch come in. -/
structure Arrival (α : Type) where
  order : List α → List α
  perm (batch : List α) : (order batch).Perm batch

def Arrival.inOrder : Arrival α := ⟨id, fun _ ↦ .rfl⟩

def collectArrivals (suits : α → Bool) (target : Nat) (found : List α) : List α → List α
  | [] => found
  | a :: rest =>
    if suits a then
      if target ≤ found.length + 1 then found ++ [a]
      else collectArrivals suits target (found ++ [a]) rest
    else collectArrivals suits target found rest

/-- Draws batches of twice the target from the end of the pool until enough is found. -/
def sample (suits : α → Bool) (target : Nat) (arrive : Arrival α) (found pool : List α) : List α :=
  if h : found.length < target ∧ pool ≠ [] then
    let cut := pool.length - 2 * target
    sample suits target arrive (collectArrivals suits target found (arrive.order (pool.drop cut)))
      (pool.take cut)
  else found
termination_by pool.length
decreasing_by
  have : 0 < pool.length := List.length_pos_iff.2 h.2
  simp only [List.length_take]
  omega

/-- Examines all candidates and puts the suitable ones back into their order. -/
def examineAll (suits : α → Bool) (arrive : Arrival (α × Nat)) (candidates : List α) : List α :=
  (((arrive.order candidates.zipIdx).filter (suits ·.1)).mergeSort fun a b ↦ a.2 ≤ b.2).map (·.1)

/-- How many of `total` candidates are enough, by a percentage that is kept from 1 to 100. -/
def sampleSize (percentage total : Nat) : Nat :=
  max 1 ((total * max 1 (min percentage 100) + 99) / 100)

end PodPlacement
