/-!
Classes of the characters of a YAML text.
-/

namespace PodPlacement.Yaml

def isBlank (c : Char) : Bool := c = ' ' || c = '\t'

def isBreak (c : Char) : Bool :=
  c = '\n' || c = '\r' || c = '\u0085' || c = '\u2028' || c = '\u2029'

def isBlankOrEnd : List Char → Bool
  | [] => true
  | c :: _ => isBlank c || isBreak c

def isAllowed (c : Char) : Bool :=
  c = '\t' || c = '\n' || c = '\r' || (0x20 ≤ c.toNat && c.toNat ≤ 0x7e) || c.toNat = 0x85 ||
    (0xa0 ≤ c.toNat && c != '\ufffe' && c != '\uffff')

def isNameChar (c : Char) : Bool := c.isAlphanum || c = '_' || c = '-'

def isFlowMark (c : Char) : Bool := ",[]\x7b\x7d".toList.contains c

def isGraveAccent (c : Char) : Bool := c.toNat = 0x60

/-- Characters that never begin a plain scalar. -/
def isIndicator (c : Char) : Bool :=
  isFlowMark c || "#&*!|>'\"%@".toList.contains c || isGraveAccent c

/-- Characters that begin a plain scalar only before another character. -/
def isWeakIndicator (c : Char) : Bool := c = '-' || c = '?' || c = ':'

end PodPlacement.Yaml
