import PodPlacement.Decimal.Basic
import PodPlacement.Text.Integer

/-!
Numbers as people write them: digits with an optional point and exponent, or the words for
infinity and for no number, in any case.
-/

namespace PodPlacement

inductive Numeral
  | finite (d : Decimal)
  | infinite (negative : Bool)
  | notANumber (negative : Bool)
deriving DecidableEq, Repr

inductive NumeralError
  | empty
  | invalid
deriving DecidableEq, Repr

def NumeralError.message : NumeralError → String
  | empty => "cannot parse float from empty string"
  | invalid => "invalid float literal"

namespace Numeral

open Text

def digitsValue (cs : List Char) : Nat := cs.foldl (fun n c ↦ n * 10 + digitValue c) 0

def readExponent : List Char → Option Int
  | [] => some 0
  | e :: cs =>
    if e = 'e' ∨ e = 'E' then
      match cs with
      | '+' :: ds => unsignedExponent ds
      | '-' :: ds => (unsignedExponent ds).map (- ·)
      | ds => unsignedExponent ds
    else none
where
  unsignedExponent (ds : List Char) : Option Int :=
    if ds ≠ [] ∧ ds.all Char.isDigit then some (digitsValue ds) else none

def readDecimal (negative : Bool) (cs : List Char) : Option Decimal :=
  let whole := cs.takeWhile Char.isDigit
  match cs.dropWhile Char.isDigit with
  | '.' :: rest =>
    let fraction := rest.takeWhile Char.isDigit
    if whole.isEmpty ∧ fraction.isEmpty then none
    else (readExponent (rest.dropWhile Char.isDigit)).map fun e ↦
      ⟨negative, digitsValue (whole ++ fraction), e - fraction.length⟩
  | rest =>
    if whole.isEmpty then none
    else (readExponent rest).map fun e ↦ ⟨negative, digitsValue whole, e⟩

def readUnsigned (negative : Bool) (cs : List Char) : Except NumeralError Numeral :=
  match String.ofList (cs.map Char.toLower) with
  | "inf" | "infinity" => .ok (.infinite negative)
  | "nan" => .ok (.notANumber negative)
  | _ =>
    match readDecimal negative cs with
    | some d => .ok (.finite d)
    | none => .error .invalid

def read : List Char → Except NumeralError Numeral
  | [] => .error .empty
  | '+' :: cs => readUnsigned false cs
  | '-' :: cs => readUnsigned true cs
  | cs => readUnsigned false cs

def toFloat : Numeral → Float
  | finite d => d.toFloat
  | infinite negative => Decimal.signed negative Decimal.infinity
  | notANumber _ => 0.0 / 0.0

end Numeral

end PodPlacement
