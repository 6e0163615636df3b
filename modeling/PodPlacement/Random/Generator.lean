/-!
A seeded source of random numbers: a linear congruential state of 128 bits whose halves are folded
and rotated into 64 bits of output.
-/

namespace PodPlacement

structure Generator where
  state : BitVec 128
  increment : BitVec 128
deriving DecidableEq, Repr, Inhabited

namespace Generator

def multiplier : BitVec 128 := 0x2360ED051FC65DA44385DF649FCCF645#128

def step (g : Generator) : Generator := { g with state := g.state * multiplier + g.increment }

/-! ### Seeding -/

def seedStep (s : BitVec 64) : BitVec 64 := s * 6364136223846793005#64 + 11634580027462260723#64

def seedWord (s : BitVec 64) : BitVec 32 :=
  (((s >>> 18) ^^^ s) >>> 27).truncate 32 |>.rotateRight (s >>> 59).toNat

def seedWords : Nat → BitVec 64 → List (BitVec 32)
  | 0, _ => []
  | n + 1, s => seedWord (seedStep s) :: seedWords n (seedStep s)

def wordCount : Nat := 0x100000000

def joinWords (ws : List (BitVec 32)) : Nat := ws.foldr (fun w n ↦ w.toNat + n * wordCount) 0

def ofSeed (seed : Nat) : Generator :=
  let ws := seedWords 8 (BitVec.ofNat 64 seed)
  let state := BitVec.ofNat 128 (joinWords (ws.take 4))
  let increment := BitVec.ofNat 128 (joinWords (ws.drop 4)) ||| 1#128
  step { state := state + increment, increment }

/-! ### Drawing -/

def next64 (g : Generator) : BitVec 64 × Generator :=
  let g := g.step
  let folded := ((g.state >>> 64) ^^^ g.state).truncate 64
  (folded.rotateRight (g.state >>> 122).toNat, g)

def next32 (g : Generator) : Nat × Generator :=
  let (x, g) := g.next64
  ((x.truncate 32 : BitVec 32).toNat, g)

/-- A number below `n`, with at most one more draw to even out the remainder. -/
def below (g : Generator) (n : Nat) : Nat × Generator :=
  let (x, g) := g.next32
  let high := x * n / wordCount
  let low := x * n % wordCount
  if wordCount - n < low then
    let (y, g) := g.next32
    (if wordCount ≤ low + y * n / wordCount then high + 1 else high, g)
  else (high, g)

end Generator

end PodPlacement
