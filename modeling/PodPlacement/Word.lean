import PodPlacement.Text.Integer

/-!
Integers of 64 bits. A sum, difference or product that leaves their range wraps around.
-/

namespace PodPlacement.Word

open Text

def Fits (n : Int) : Prop := IntegerRange.signed64.lo ≤ n ∧ n ≤ IntegerRange.signed64.hi

instance (n : Int) : Decidable (Fits n) := inferInstanceAs (Decidable (_ ∧ _))

/-- The integer that fits and has the last 64 bits of `n`. -/
def wrap (n : Int) : Int := n.bmod 0x10000000000000000

def add (a b : Int) : Int := wrap (a + b)

def sub (a b : Int) : Int := wrap (a - b)

def mul (a b : Int) : Int := wrap (a * b)

def sum (ns : List Int) : Int := ns.foldl add 0

end PodPlacement.Word
