import PodPlacement.Yaml.Character

/-!
A place in a YAML text, and the breaks between its lines. A break is a line feed, a carriage
return, both of them, or one of the breaks of Unicode; all but the separators of lines and of
paragraphs read as line feeds.
-/

namespace PodPlacement.Yaml

structure Cursor where
  rest : List Char
  index : Nat := 0
  line : Nat := 0
  column : Nat := 0
deriving DecidableEq, Repr, Inhabited

namespace Cursor

def forward (c : Cursor) (n : Nat) : Cursor :=
  { c with rest := c.rest.drop n, index := c.index + n, column := c.column + n }

def forwardTo (c : Cursor) (rest : List Char) : Cursor :=
  { c.forward (c.rest.length - rest.length) with rest }

def take (c : Cursor) (p : Char → Bool) : List Char × Cursor :=
  let taken := c.rest.takeWhile p
  (taken, c.forward taken.length)

def skip (c : Cursor) (p : Char → Bool) : Cursor := (c.take p).2

def skipBlanks (c : Cursor) : Cursor := c.skip isBlank

def looksAt (c : Cursor) (p : Char → Bool) : Bool := c.rest.head?.any p

def atEnd (c : Cursor) : Bool := c.rest.isEmpty

def atGap (c : Cursor) : Bool := c.looksAt fun d ↦ isBlank d || isBreak d

def nextLine (c : Cursor) (n : Nat) : Cursor := ⟨c.rest.drop n, c.index + n, c.line + 1, 0⟩

def break? (c : Cursor) : Option (Char × Cursor) :=
  match c.rest with
  | '\r' :: '\n' :: _ => some ('\n', c.nextLine 2)
  | d :: _ =>
    if d = '\u2028' ∨ d = '\u2029' then some (d, c.nextLine 1)
    else if isBreak d then some ('\n', c.nextLine 1)
    else none
  | [] => none

def endOfLine? (c : Cursor) : Option Cursor :=
  let c := c.skipBlanks
  let c := if c.looksAt (· = '#') then c.skip (!isBreak ·) else c
  if c.atEnd then some c else c.break?.map (·.2)

def atTriple (c : Cursor) (mark : Char) : Bool :=
  c.column = 0 && c.rest.take 3 == [mark, mark, mark] && isBlankOrEnd (c.rest.drop 3)

def atDocumentMark (c : Cursor) : Bool := c.atTriple '-' || c.atTriple '.'

/-- The breaks from here to the next word, with the blanks between them dropped. No tab may stand
in the first `indent` columns. -/
def breaks? (indent : Nat) : Nat → Cursor → Option (List Char × Cursor)
  | 0, c => some ([], c)
  | fuel + 1, c =>
    match c.break? with
    | none => some ([], c)
    | some (b, c) => do
      let spaced := c.skip (· = ' ')
      if spaced.column < indent ∧ spaced.looksAt (· = '\t') then none
      else
        let (bs, c) ← breaks? indent fuel spaced.skipBlanks
        return (b :: bs, c)

/-- One break joins two lines with a space; of several, the first is dropped. Separators of lines
and of paragraphs stay. -/
def foldBreaks : List Char → List Char
  | ['\n'] => [' ']
  | '\n' :: more => more
  | bs => bs

structure Gap where
  text : List Char
  overLines : Bool
deriving DecidableEq, Repr

def gap? (indent : Nat) (c : Cursor) : Option (Gap × Cursor) := do
  let (blanks, c) := c.take isBlank
  let (bs, c) ← c.breaks? indent c.rest.length
  return if bs.isEmpty then (⟨blanks, false⟩, c) else (⟨foldBreaks bs, true⟩, c)

end Cursor

end PodPlacement.Yaml
