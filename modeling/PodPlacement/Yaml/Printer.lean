import PodPlacement.Config.Value
import PodPlacement.Yaml.Basic
import PodPlacement.Yaml.Character

/-!
Writing settings as YAML in block style. Text stands plain where it reads back as that text, in
single quotes where it would be taken for something else, and in double quotes where a character of
it cannot be shown. Text of several lines is a block of its own.
-/

namespace PodPlacement.Yaml

def isShown (c : Char) : Bool :=
  c = '\n' || (0x20 ≤ c.toNat && c.toNat ≤ 0x7e) || (0xa0 ≤ c.toNat && c.toNat ≤ 0xd7ff) ||
    (0xe000 ≤ c.toNat && c.toNat ≤ 0xfffd && c != '\ufeff') || 0x10000 ≤ c.toNat

def startsWithMark : List Char → Bool
  | [] => false
  | c :: rest => isIndicator c || (isWeakIndicator c && isBlankOrEnd rest)

def hasInnerMark : List Char → Bool
  | c :: d :: rest =>
    (d = ':' && isBlankOrEnd rest) || (d = '#' && isBlankOrEnd [c]) || hasInnerMark (d :: rest)
  | _ => false

def hasPair (p q : Char → Bool) : List Char → Bool
  | c :: d :: rest => (p c && q d) || hasPair p q (d :: rest)
  | _ => false

def isSpace (c : Char) : Bool := c = ' '

def plainAllowed (cs : List Char) : Bool :=
  !(startsWithMark cs || hasInnerMark cs || cs.take 3 == "---".toList ||
    cs.take 3 == "...".toList || cs.head?.any (fun c ↦ isSpace c || isBreak c) ||
    cs.getLast?.any (fun c ↦ isSpace c || isBreak c) || cs.any isBreak)

def needsEscape (cs : List Char) : Bool :=
  cs.any (fun c ↦ !isShown c) || hasPair isSpace isBreak cs

def singleAllowed (cs : List Char) : Bool := !(needsEscape cs || hasPair isBreak isSpace cs)

def blockAllowed (cs : List Char) : Bool := !(needsEscape cs || cs.getLast?.any isSpace)

def readsOtherwise (s : String) : Bool :=
  s.isEmpty || isNullWord s || (flag? s).isSome || (integer? s).isSome || (number? s).isSome ||
    hasLeadingZero s.toList

def hexPadded (width n : Nat) : List Char :=
  let ds := (Nat.toDigits 16 n).map Char.toUpper
  List.replicate (width - ds.length) '0' ++ ds

def escapeChar (c : Char) : List Char :=
  match c with
  | '\x00' => ['\\', '0']
  | '\x07' => ['\\', 'a']
  | '\x08' => ['\\', 'b']
  | '\t' => ['\\', 't']
  | '\n' => ['\\', 'n']
  | '\x0b' => ['\\', 'v']
  | '\x0c' => ['\\', 'f']
  | '\r' => ['\\', 'r']
  | '\x1b' => ['\\', 'e']
  | '"' => ['\\', '"']
  | '\\' => ['\\', '\\']
  | '\u0085' => ['\\', 'N']
  | '\u00a0' => ['\\', '_']
  | '\u2028' => ['\\', 'L']
  | '\u2029' => ['\\', 'P']
  | c =>
    if c.toNat ≤ 0xff then '\\' :: 'x' :: hexPadded 2 c.toNat
    else if c.toNat ≤ 0xffff then '\\' :: 'u' :: hexPadded 4 c.toNat
    else '\\' :: 'U' :: hexPadded 8 c.toNat

def writeDoubleChar (c : Char) : List Char :=
  if isShown c && !isBreak c && c != '"' && c != '\\' then [c] else escapeChar c

def doubleText (cs : List Char) : String :=
  String.ofList ('"' :: cs.flatMap writeDoubleChar ++ ['"'])

def pad (indent : Nat) : String := String.ofList (List.replicate indent ' ')

/-- Indents each line after the first; `atStart` tells whether a line begins here. An empty line
stays empty. -/
def indentLines (indent : Nat) : Bool → List Char → List Char
  | _, [] => []
  | atStart, c :: cs =>
    if isBreak c then c :: indentLines indent true cs
    else if atStart then List.replicate indent ' ' ++ c :: indentLines indent false cs
    else c :: indentLines indent false cs

def singleText (indent : Nat) (cs : List Char) : String :=
  let doubled := cs.flatMap fun c ↦ if c = '\'' then ['\'', '\''] else [c]
  String.ofList ('\'' :: indentLines indent false (doubled ++ ['\'']))

def inlineText (indent : Nat) (s : String) : String :=
  let cs := s.toList
  if !readsOtherwise s && plainAllowed cs && singleAllowed cs then s
  else if singleAllowed cs then singleText indent cs
  else doubleText cs

def blockMark (cs : List Char) : String :=
  let first := if cs.head?.any (fun c ↦ isSpace c || isBreak c) then "2" else ""
  let last := match cs.reverse with
    | c :: rest =>
      if !isBreak c then "-" else if rest.head?.all isBreak then "+" else ""
    | [] => "-"
  "|" ++ first ++ last

def blockText (indent : Nat) (cs : List Char) : String :=
  blockMark cs ++ "\n" ++ String.ofList (indentLines indent true cs)

def endLine (cs : List Char) : String := if cs.getLast?.any isBreak then "" else "\n"

def numberLayout : DecimalLayout := ⟨-5, 16, ".inf", ".nan"⟩

def scalarText (indent : Nat) : ConfigValue → String
  | .absent => "null\n"
  | .flag b => if b then "true\n" else "false\n"
  | .whole n => toString n ++ "\n"
  | .number x => numberLayout.text x ++ "\n"
  | .text s =>
    let cs := s.toList
    if !cs.contains '\n' then inlineText (indent + 2) s ++ "\n"
    else if blockAllowed cs then blockText (indent + 2) cs ++ endLine cs
    else doubleText cs ++ "\n"
  | .list _ => "[]\n"
  | .record _ => "\x7b\x7d\n"

mutual

/-- The value after a key at `indent`: lists stay at the indentation of their key. -/
def valueText (indent : Nat) : ConfigValue → String
  | .list (item :: items) => "\n" ++ itemsText indent (item :: items)
  | .record (field :: fields) => "\n" ++ fieldsText (indent + 2) (field :: fields)
  | v => " " ++ scalarText indent v

def fieldsText (indent : Nat) : List (String × ConfigValue) → String
  | [] => ""
  | (name, v) :: fields =>
    pad indent ++ inlineText (indent + 2) name ++ ":" ++ valueText indent v ++
      fieldsText indent fields

def itemsText (indent : Nat) : List ConfigValue → String
  | [] => ""
  | v :: items =>
    let text := match v with
      | .list (i :: is) => unindent (itemsText (indent + 2) (i :: is))
      | .record (f :: fs) => unindent (fieldsText (indent + 2) (f :: fs))
      | v => scalarText indent v
    pad indent ++ "- " ++ text ++ itemsText indent items
where
  /-- Drops the indentation of the first line, whose place the dash takes. -/
  unindent (s : String) : String := (s.drop (indent + 2)).toString

end

def render : ConfigValue → String
  | .record (f :: fs) => fieldsText 0 (f :: fs)
  | .list (i :: is) => itemsText 0 (i :: is)
  | v => scalarText 0 v

end PodPlacement.Yaml
