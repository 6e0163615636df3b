import PodPlacement.Json.Basic

/-!
Writing JSON text without blanks. Quotes, backslashes and control characters are escaped, all other
characters stand as they are.
-/

namespace PodPlacement.Json

def hexDigit (n : Nat) : Char := Nat.digitChar (n % 16)

def escapeChar (c : Char) : List Char :=
  match c with
  | '"' => ['\\', '"']
  | '\\' => ['\\', '\\']
  | '\x08' => ['\\', 'b']
  | '\x0c' => ['\\', 'f']
  | '\n' => ['\\', 'n']
  | '\r' => ['\\', 'r']
  | '\t' => ['\\', 't']
  | c =>
    if c.toNat < 0x20 then ['\\', 'u', '0', '0', hexDigit (c.toNat / 16), hexDigit c.toNat]
    else [c]

def writeString (s : String) : List Char := '"' :: s.toList.flatMap escapeChar ++ ['"']

def writeDecimal (d : Decimal) : String :=
  (if d.negative then "-" else "") ++ toString d.significand ++ "e" ++ toString d.exponent

def sepBy (sep : Char) : List (List Char) → List Char
  | [] => []
  | [cs] => cs
  | cs :: rest => cs ++ sep :: sepBy sep rest

mutual

def write : Json → List Char
  | null | undenoted => "null".toList
  | bool true => "true".toList
  | bool false => "false".toList
  | int n => (toString n).toList
  | real d => (writeDecimal d).toList
  | str s => writeString s
  | arr items => '[' :: sepBy ',' (writeAll items) ++ [']']
  | obj members => '\x7b' :: sepBy ',' (writeMembers members) ++ ['\x7d']

def writeAll : List Json → List (List Char)
  | [] => []
  | j :: js => write j :: writeAll js

def writeMembers : List (String × Json) → List (List Char)
  | [] => []
  | (k, j) :: ms => (writeString k ++ ':' :: write j) :: writeMembers ms

end

def compact (j : Json) : String := String.ofList j.write

end PodPlacement.Json
