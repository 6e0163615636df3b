import PodPlacement.Yaml.Scalar
import PodPlacement.Yaml.Token

/-!
Splitting a YAML text into tokens. A key is recognised only by the colon after it: its place is
kept in mind, and the token that announces it is put in there later.
-/

namespace PodPlacement.Yaml

structure KeyMark where
  /-- How many tokens come before it. -/
  position : Nat
  place : Cursor
  /-- Whether nothing but a key can stand there. -/
  required : Bool
deriving DecidableEq, Repr

structure Lexer where
  cursor : Cursor
  tokens : Array Token := #[]
  /-- The columns of the levels that are open, the innermost first. -/
  indents : List Nat := []
  /-- The key that may have begun inside the innermost brackets, and those around them. -/
  key : Option KeyMark := none
  outerKeys : List (Option KeyMark) := []
  /-- Whether a key may begin here. -/
  keyAllowed : Bool := true
deriving Repr, Inhabited

namespace Lexer

def inFlow (l : Lexer) : Bool := !l.outerKeys.isEmpty

/-- The least column of a line that goes on with a scalar. -/
def floor (l : Lexer) : Nat := l.indents.head?.elim 0 (· + 1)

def emit (l : Lexer) (t : Token) : Lexer := { l with tokens := l.tokens.push t }

def forward (l : Lexer) (n : Nat) : Lexer := { l with cursor := l.cursor.forward n }

/-! ### Levels -/

/-- Opens a level at the column, unless one is open there, and puts its token in at `position`. -/
def openLevel (l : Lexer) (column position : Nat) (t : Token) : Lexer :=
  if !l.inFlow && l.indents.head?.all (· < column) then
    { l with
      indents := column :: l.indents
      tokens := l.tokens.insertIdxIfInBounds position t }
  else l

def closeLevels (l : Lexer) (keep : Nat → Bool) : Lexer :=
  if l.inFlow then l
  else
    let closed := l.indents.takeWhile (!keep ·)
    { l with
      indents := l.indents.drop closed.length
      tokens := l.tokens ++ closed.map fun _ ↦ Token.blockEnd }

/-! ### Keys -/

/-- A key stays in one line and within 1024 characters. -/
def isStale (c : Cursor) (k : KeyMark) : Bool :=
  k.place.line < c.line || k.place.index + 1024 < c.index

def dropStale (c : Cursor) : Option KeyMark → Option (Option KeyMark)
  | some k => if isStale c k then if k.required then none else some none else some (some k)
  | none => some none

/-- Forgets the keys that have become too long; `none` when one was required. -/
def dropStaleKeys (l : Lexer) : Option Lexer := do
  let key ← dropStale l.cursor l.key
  let outerKeys ← l.outerKeys.mapM (dropStale l.cursor)
  return { l with key, outerKeys }

def dropKey (l : Lexer) : Option Lexer :=
  if l.key.any (·.required) then none else some { l with key := none }

def markKey (l : Lexer) : Option Lexer :=
  if l.keyAllowed then do
    let l ← l.dropKey
    let required := !l.inFlow && l.indents.head? == some l.cursor.column
    return { l with key := some ⟨l.tokens.size, l.cursor, required⟩ }
  else some l

def enter (l : Lexer) (t : Token) : Option Lexer :=
  if l.inFlow then some l
  else if l.keyAllowed then some (l.openLevel l.cursor.column l.tokens.size t)
  else none

/-! ### Blanks and comments -/

/-- Passes blanks, breaks and comments. A tab may not stand where a key could. -/
def skipSpace : Nat → Lexer → Lexer
  | 0, l => l
  | fuel + 1, l =>
    let c := if l.cursor.column = 0 ∧ l.cursor.looksAt (· = '\ufeff') then l.cursor.forward 1
      else l.cursor
    let c := c.skip fun d ↦ d = ' ' || (d = '\t' && (l.inFlow || !l.keyAllowed))
    let c := if c.looksAt (· = '#') then c.skip (!isBreak ·) else c
    match c.break? with
    | some (_, c) => skipSpace fuel { l with cursor := c, keyAllowed := l.keyAllowed || !l.inFlow }
    | none => { l with cursor := c }

/-! ### Tokens -/

def atMargin (l : Lexer) : Option Lexer := do
  let l ← (l.closeLevels fun _ ↦ false).dropKey
  return { l with keyAllowed := false }

def number? (cs : List Char) : Option (Nat × List Char) :=
  let ds := cs.takeWhile Char.isDigit
  if ds.isEmpty ∨ 9 < ds.length then none
  else (natural? 10 ds).map (·, cs.drop ds.length)

def isTagChar (verbatim : Bool) (c : Char) : Bool :=
  isNameChar c || ";/?:@&=+$.%!~*'()".toList.contains c || (verbatim && ",[]".toList.contains c)

def handle? : List Char → Option (String × List Char)
  | '!' :: cs =>
    let name := cs.takeWhile isNameChar
    match cs.drop name.length with
    | '!' :: rest => some (String.ofList ('!' :: name ++ ['!']), rest)
    | _ => if name.isEmpty then some ("!", cs) else none
  | _ => none

def directive? (l : Lexer) : Option Lexer := do
  let (name, c) := (l.cursor.forward 1).take isNameChar
  let c ← if isBlankOrEnd c.rest then some c.skipBlanks else none
  let (token, rest) ←
    if name == "YAML".toList then do
      let (major, rest) ← number? c.rest
      let .cons '.' rest := rest | none
      let (minor, rest) ← number? rest
      pure (Token.version major minor, rest)
    else if name == "TAG".toList then do
      let (handle, rest) ← handle? c.rest
      let uri := rest.dropWhile isBlank
      let tail := uri.dropWhile (isTagChar true)
      if !rest.head?.any isBlank || uri.length = tail.length || !isBlankOrEnd tail then none
      else pure (Token.tagHandle handle, tail)
    else none
  let c ← (c.forwardTo rest).endOfLine?
  return { l with cursor := c }.emit token

def anchor? (l : Lexer) (make : String → Token) : Option Lexer := do
  let l ← l.markKey
  let (name, c) := (l.cursor.forward 1).take isNameChar
  let ends := isBlankOrEnd c.rest || c.looksAt fun d ↦
    "?:,]\x7d%@".toList.contains d || isGraveAccent d
  if name.isEmpty || !ends then none
  else return { l with cursor := c, keyAllowed := false }.emit (make (String.ofList name))

def tagEnd? (cs : List Char) : Option (String × List Char) :=
  match cs with
  | '!' :: '<' :: cs =>
    let rest := cs.dropWhile (isTagChar true)
    match rest with
    | '>' :: r => if rest.length < cs.length then some ("", r) else none
    | _ => none
  | _ =>
    match handle? cs with
    | some ("!", rest) => some ("!", rest.dropWhile (isTagChar false))
    | some (handle, rest) =>
      let tail := rest.dropWhile (isTagChar false)
      if tail.length < rest.length then some (handle, tail) else none
    | none => some ("!", (cs.drop 1).dropWhile (isTagChar false))

def tag? (l : Lexer) : Option Lexer := do
  let l ← l.markKey
  let (handle, rest) ← tagEnd? l.cursor.rest
  if isBlankOrEnd rest || (l.inFlow && rest.head? = some ',') then
    return { l with cursor := l.cursor.forwardTo rest, keyAllowed := false }.emit (.tag handle)
  else none

def quoted? (l : Lexer) (single : Bool) : Option Lexer := do
  let l ← l.markKey
  let c := l.cursor.forward 1
  let (text, c) ← c.quoted? single (c.rest.length + 2)
  return { l with cursor := c, keyAllowed := false }.emit (.scalar false (String.ofList text))

def plain? (l : Lexer) : Option Lexer := do
  let l ← l.markKey
  let (text, onNewLine, c) ←
    l.cursor.plain? l.inFlow l.floor (l.cursor.rest.length + 1) ⟨[], false⟩
  return { l with cursor := c, keyAllowed := onNewLine }.emit (.scalar true (String.ofList text))

def block? (l : Lexer) (folded : Bool) : Option Lexer := do
  let l ← l.dropKey
  let (text, c) ← (l.cursor.forward 1).block? folded l.floor
  return { l with cursor := c, keyAllowed := true }.emit (.scalar false (String.ofList text))

def openFlow (l : Lexer) (t : Token) : Option Lexer := do
  let l ← l.markKey
  let inner := { l with key := none, outerKeys := l.key :: l.outerKeys, keyAllowed := true }
  return (inner.emit t).forward 1

def closeFlow (l : Lexer) (t : Token) : Option Lexer := do
  let l ← l.dropKey
  let l := match l.outerKeys with
    | key :: outerKeys => { l with key, outerKeys }
    | [] => l
  return ({ l with keyAllowed := false }.emit t).forward 1

def comma? (l : Lexer) : Option Lexer := do
  let l ← l.dropKey
  return ({ l with keyAllowed := true }.emit .comma).forward 1

def item? (l : Lexer) : Option Lexer := do
  let l ← (← l.enter .blockList).dropKey
  return ({ l with keyAllowed := true }.emit .item).forward 1

def key? (l : Lexer) : Option Lexer := do
  let l ← (← l.enter .blockRecord).dropKey
  return ({ l with keyAllowed := !l.inFlow }.emit .key).forward 1

def value? (l : Lexer) : Option Lexer := do
  let l ← match l.key with
    | some k =>
      let l := { l with tokens := l.tokens.insertIdxIfInBounds k.position .key }
      let l := l.openLevel k.place.column k.position .blockRecord
      pure { l with key := none, keyAllowed := false }
    | none => do
      let l ← l.enter .blockRecord
      pure { l with keyAllowed := !l.inFlow }
  return (l.emit .value).forward 1

def token? (l : Lexer) : Option Lexer :=
  let c := l.cursor
  let alone := isBlankOrEnd (c.rest.drop 1)
  match c.rest with
  | [] => none
  | d :: _ =>
    if c.column = 0 ∧ d = '%' then l.atMargin.bind directive?
    else if c.atTriple '-' then l.atMargin.map fun l ↦ (l.emit .documentStart).forward 3
    else if c.atTriple '.' then l.atMargin.map fun l ↦ (l.emit .documentEnd).forward 3
    else if d = '[' then l.openFlow .flowList
    else if d = '\x7b' then l.openFlow .flowRecord
    else if d = ']' then l.closeFlow .flowListEnd
    else if d = '\x7d' then l.closeFlow .flowRecordEnd
    else if d = ',' then l.comma?
    else if d = '-' ∧ alone then l.item?
    else if d = '?' ∧ (l.inFlow ∨ alone) then l.key?
    else if d = ':' ∧ (l.inFlow ∨ alone) then l.value?
    else if d = '*' then l.anchor? .alias
    else if d = '&' then l.anchor? .anchor
    else if d = '!' then l.tag?
    else if d = '|' ∧ !l.inFlow then l.block? false
    else if d = '>' ∧ !l.inFlow then l.block? true
    else if d = '\'' then l.quoted? true
    else if d = '"' then l.quoted? false
    else if Cursor.startsPlain l.inFlow c.rest then l.plain?
    else none

def run : Nat → Lexer → Option (Array Token)
  | 0, _ => none
  | fuel + 1, l => do
    let l ← (l.skipSpace (l.cursor.rest.length + 1)).dropStaleKeys
    let l := l.closeLevels (· ≤ l.cursor.column)
    if l.cursor.atEnd then return (← (l.closeLevels fun _ ↦ false).dropKey).tokens
    else run fuel (← l.token?)

end Lexer

def tokens? (cs : List Char) : Option (List Token) :=
  if cs.all isAllowed then
    (Lexer.run (cs.length + 1) { cursor := { rest := cs } }).map Array.toList
  else none

end PodPlacement.Yaml
