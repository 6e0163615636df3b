/-!
Signed decimal integers in a fixed range. Reading goes from left to right and stops at the first
fault, so a digit that leaves the range is reported before a later character that is no digit.
-/

namespace PodPlacement.Text

inductive IntegerError
  | empty
  | invalidDigit
  | tooLarge
  | tooSmall
deriving DecidableEq, Repr

def IntegerError.message : IntegerError → String
  | empty => "cannot parse integer from empty string"
  | invalidDigit => "invalid digit found in string"
  | tooLarge => "number too large to fit in target type"
  | tooSmall => "number too small to fit in target type"

structure IntegerRange where
  lo : Int
  hi : Int
deriving DecidableEq, Repr

namespace IntegerRange

def signed32 : IntegerRange := ⟨-0x80000000, 0x7fffffff⟩

def signed64 : IntegerRange := ⟨-0x8000000000000000, 0x7fffffffffffffff⟩

def unsigned32 : IntegerRange := ⟨0, 0xffffffff⟩

def unsigned64 : IntegerRange := ⟨0, 0xffffffffffffffff⟩

def contains (r : IntegerRange) (n : Int) : Bool := r.lo ≤ n && n ≤ r.hi

def clamp (r : IntegerRange) (n : Int) : Int := max r.lo (min n r.hi)

end IntegerRange

def digitValue (c : Char) : Nat := c.toNat - '0'.toNat

/-- Appends digits to `n`, each counting away from zero in the direction of `sign`. -/
def readDigits (range : IntegerRange) (sign : Int) : Int → List Char → Except IntegerError Int
  | n, [] => .ok n
  | n, c :: cs =>
    if c.isDigit then
      let m := n * 10 + sign * digitValue c
      if range.hi < m then .error .tooLarge
      else if m < range.lo then .error .tooSmall
      else readDigits range sign m cs
    else .error .invalidDigit

/-- An optional sign and at least one digit; a minus sign is a fault where the range has no
negative numbers. -/
def readInteger (range : IntegerRange) : List Char → Except IntegerError Int
  | [] => .error .empty
  | ['+'] => .error .invalidDigit
  | ['-'] => .error .invalidDigit
  | '+' :: cs => readDigits range 1 0 cs
  | '-' :: cs => if range.lo < 0 then readDigits range (-1) 0 cs else .error .invalidDigit
  | cs => readDigits range 1 0 cs

end PodPlacement.Text
