import PodPlacement.Random.Generator

/-!
Shuffling a list in place, from the front: each element changes places with one at or before it.
Several of these choices are taken from one draw while their number of outcomes fits 32 bits.
-/

namespace PodPlacement

/-- A draw that still holds `left` choices; `position` is how many elements have been placed. -/
structure ChoiceSource where
  position : Nat := 0
  left : Nat := 1
  chunk : Nat := 0
deriving DecidableEq, Repr

namespace ChoiceSource

/-- Multiplies `product` by as many of the numbers from `factor` on as fit below 2 ^ 32. -/
def growProduct : Nat → Nat → Nat → Nat × Nat
  | 0, product, factor => (product, factor)
  | fuel + 1, product, factor =>
    if product * factor < Generator.wordCount then growProduct fuel (product * factor) (factor + 1)
    else (product, factor)

def next (c : ChoiceSource) (g : Generator) : Nat × ChoiceSource × Generator :=
  let place := c.position + 1
  let (left, chunk, g) :=
    if 0 < c.left then (c.left - 1, c.chunk, g)
    else
      let (product, factor) := growProduct 64 place (place + 1)
      let (chunk, g) := g.below product
      (factor - place - 1, chunk, g)
  if left = 0 then (chunk, ⟨place, left, chunk⟩, g)
  else (chunk % place, ⟨place, left, chunk / place⟩, g)

end ChoiceSource

variable {α : Type}

def swapAt (xs : Array α) (i j : Nat) : Array α :=
  if h : i < xs.size ∧ j < xs.size then xs.swap i j h.1 h.2 else xs

def shuffleFrom (xs : Array α) (c : ChoiceSource) (g : Generator) : List Nat → Array α × Generator
  | [] => (xs, g)
  | i :: rest =>
    let (j, c, g) := c.next g
    shuffleFrom (swapAt xs i j) c g rest

def shuffle (xs : List α) (g : Generator) : List α × Generator :=
  if xs.length ≤ 1 then (xs, g)
  else
    let (ys, g) := shuffleFrom xs.toArray {} g (List.range xs.length)
    (ys.toList, g)

end PodPlacement
