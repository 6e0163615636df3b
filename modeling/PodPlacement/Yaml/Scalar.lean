import PodPlacement.Yaml.Basic
import PodPlacement.Yaml.Cursor

/-!
Reading the scalars of a YAML text: plain ones, those in quotes, and those in blocks. Each is read
from the place where it begins, and gives the place where it ends.
-/

namespace PodPlacement.Yaml.Cursor

/-! ### Plain scalars -/

def startsPlain (inFlow : Bool) : List Char → Bool
  | [] => false
  | c :: rest =>
    if c = '-' then !rest.head?.any isBlank
    else if isWeakIndicator c then !inFlow && !isBlankOrEnd rest
    else !(isIndicator c || isBlank c || isBreak c)

/-- The characters up to the next gap or mark; a colon between brackets must not be followed by a
mark. -/
def plainWord? (inFlow : Bool) : List Char → Option (List Char)
  | [] => some []
  | c :: rest =>
    if isBlank c || isBreak c || (inFlow && isFlowMark c) || (c = ':' && isBlankOrEnd rest) then
      some []
    else if inFlow && c = ':' && rest.head?.any (fun d ↦ isFlowMark d || d = '?') then none
    else (plainWord? inFlow rest).map (c :: ·)

/-- A plain scalar goes on until a mark, a comment, or a line that begins before the column
`indent`. The last part tells whether the place after it is the start of a line. -/
def plain? (inFlow : Bool) (indent : Nat) :
    Nat → Gap → Cursor → Option (List Char × Bool × Cursor)
  | 0, _, _ => none
  | fuel + 1, before, c => do
    let word ← if c.atDocumentMark || c.looksAt (· = '#') then some []
      else plainWord? inFlow c.rest
    if word.isEmpty then return ([], before.overLines, c)
    else
      let c := c.forward word.length
      if c.atGap then
        let (gap, c) ← c.gap? indent
        if !inFlow && c.column < indent then return (before.text ++ word, gap.overLines, c)
        else
          let (more, onNewLine, c) ← plain? inFlow indent fuel gap c
          return (before.text ++ word ++ more, onNewLine, c)
      else return (before.text ++ word, false, c)

/-! ### Scalars in quotes -/

def shortEscape? : Char → Option Char
  | '0' => some '\x00'
  | 'a' => some '\x07'
  | 'b' => some '\x08'
  | 't' => some '\t'
  | '\t' => some '\t'
  | 'n' => some '\n'
  | 'v' => some '\x0b'
  | 'f' => some '\x0c'
  | 'r' => some '\r'
  | 'e' => some '\x1b'
  | ' ' => some ' '
  | '"' => some '"'
  | '/' => some '/'
  | '\\' => some '\\'
  | 'N' => some '\u0085'
  | '_' => some '\u00a0'
  | 'L' => some '\u2028'
  | 'P' => some '\u2029'
  | _ => none

def codePoint? (ds : List Char) (width : Nat) : Option Char :=
  if ds.length = width then
    (natural? 16 ds).bind fun n ↦ if n.isValidChar then some (Char.ofNat n) else none
  else none

def escapeWidth? : Char → Option Nat
  | 'x' => some 2
  | 'u' => some 4
  | 'U' => some 8
  | _ => none

/-- In single quotes only the quote itself is escaped, by another one. -/
def singleWord : List Char → List Char × List Char
  | '\'' :: '\'' :: cs =>
    let (word, rest) := singleWord cs
    ('\'' :: word, rest)
  | '\'' :: cs => ([], '\'' :: cs)
  | c :: cs =>
    if isBlank c || isBreak c then ([], c :: cs)
    else
      let (word, rest) := singleWord cs
      (c :: word, rest)
  | [] => ([], [])

/-- Stops before a gap, the closing quote, or an escaped break. -/
def doubleWord? : Nat → List Char → Option (List Char × List Char)
  | 0, _ => none
  | fuel + 1, '\\' :: c :: cs =>
    if isBreak c then some ([], '\\' :: c :: cs)
    else do
      let (d, cs) ← match escapeWidth? c with
        | some width => (codePoint? (cs.take width) width).map (·, cs.drop width)
        | none => (shortEscape? c).map (·, cs)
      let (word, rest) ← doubleWord? fuel cs
      return (d :: word, rest)
  | fuel + 1, c :: cs =>
    if c = '"' || isBlank c || isBreak c then some ([], c :: cs)
    else if c = '\\' then none
    else (doubleWord? fuel cs).map fun (word, rest) ↦ (c :: word, rest)
  | _ + 1, [] => some ([], [])

def quotedWord? (single : Bool) (cs : List Char) : Option (List Char × List Char) :=
  if single then some (singleWord cs) else doubleWord? (cs.length + 1) cs

/-- Up to the closing quote. An escaped break joins two lines with nothing between them. -/
def quoted? (single : Bool) : Nat → Cursor → Option (List Char × Cursor)
  | 0, _ => none
  | fuel + 1, c =>
    if c.atDocumentMark || c.atEnd then none
    else do
      let (word, rest) ← quotedWord? single c.rest
      let c := c.forwardTo rest
      if c.looksAt (· = if single then '\'' else '"') then return (word, c.forward 1)
      else
        let (joint, c) ←
          if c.looksAt (· = '\\') then do
            let (bs, c) ← (c.forward 1).breaks? 0 c.rest.length
            pure (bs.drop 1, c)
          else do
            let (gap, c) ← c.gap? 0
            pure (gap.text, c)
        let (more, c) ← quoted? single fuel c
        return (word ++ joint ++ more, c)

/-! ### Scalars in blocks -/

inductive Chomping
  | strip
  | clip
  | keep
deriving DecidableEq, Repr

/-- The mark after the first one, in either order: how the text ends and how far it is indented. -/
def blockHeader? (cs : List Char) : Option (Chomping × Option Nat × List Char) :=
  let chomping? : List Char → Option (Chomping × List Char)
    | '+' :: r => some (.keep, r)
    | '-' :: r => some (.strip, r)
    | _ => none
  let width? : List Char → Option (Option Nat × List Char)
    | d :: r =>
      if d = '0' then none
      else if d.isDigit then some (some (Text.digitValue d), r)
      else some (none, d :: r)
    | [] => some (none, [])
  match chomping? cs with
  | some (chomping, r) => (width? r).map fun (width, r) ↦ (chomping, width, r)
  | none => do
    let (width, r) ← width? cs
    match width, chomping? r with
    | some _, some (chomping, r) => return (chomping, width, r)
    | _, _ => return (.clip, width, r)

/-- The breaks before the next line of the block and the greatest indentation seen; spaces count as
indentation up to `limit`, and a tab must not stand among them. -/
def blockBreaks? (limit : Option Nat) :
    Nat → Nat → Cursor → Option (List Char × Nat × Cursor)
  | 0, widest, c => some ([], widest, c)
  | fuel + 1, widest, c => do
    let spaces := (c.rest.takeWhile (· = ' ')).length
    let c := c.forward (limit.elim spaces fun n ↦ min spaces (n - c.column))
    let widest := max widest c.column
    if limit.all (c.column < ·) ∧ c.looksAt (· = '\t') then none
    else
      match c.break? with
      | none => return ([], widest, c)
      | some (b, c) =>
        let (bs, widest, c) ← blockBreaks? limit fuel widest c
        return (b :: bs, widest, c)

/-- The lines of a block, `before` being the break before the first of them and `afterBlank`
whether the line before it began with a blank, and the breaks that are left at the end. -/
def blockLines? (folded : Bool) (indent : Nat) :
    Nat → List Char → List Char → Bool → Cursor →
      Option (List Char × List Char × List Char × Cursor)
  | 0, _, _, _, _ => none
  | fuel + 1, last, more, afterBlank, c =>
    if c.column = indent ∧ !c.atEnd then do
      let blank := c.looksAt isBlank
      let joint :=
        if folded && last == ['\n'] && !afterBlank && !blank then
          if more.isEmpty then [' '] else more
        else last ++ more
      let (line, c) := c.take (!isBreak ·)
      let (last, c) := match c.break? with
        | some (b, c) => ([b], c)
        | none => ([], c)
      let (more, _, c) ← blockBreaks? (some indent) (c.rest.length + 1) 0 c
      let (text, last, more, c) ← blockLines? folded indent fuel last more blank c
      return (joint ++ line ++ text, last, more, c)
    else some ([], last, more, c)

/-- A scalar in a block, after its first mark; `indent` is the least indentation it may have. -/
def block? (folded : Bool) (indent : Nat) (c : Cursor) : Option (List Char × Cursor) := do
  let (chomping, width, rest) ← blockHeader? c.rest
  let c ← (c.forwardTo rest).endOfLine?
  let given := width.map fun n ↦ indent - 1 + n
  let (more, widest, c) ← blockBreaks? given (c.rest.length + 1) 0 c
  let indent := given.getD (max (max widest indent) 1)
  let (text, last, more, c) ← blockLines? folded indent (c.rest.length + 1) [] more false c
  return match chomping with
    | .strip => (text, c)
    | .clip => (text ++ last, c)
    | .keep => (text ++ last ++ more, c)

end PodPlacement.Yaml.Cursor
