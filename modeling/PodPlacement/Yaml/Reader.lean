import PodPlacement.Yaml.Lexer

/-!
Reading a YAML value from its tokens. A node may be named by an anchor and stand for itself again
under an alias; tags are read over. A text holds one document at most.
-/

namespace PodPlacement.Yaml

structure Reading where
  tokens : List Token
  /-- The last anchor first; a node has no value before its end. -/
  anchors : List (String × Option Yaml) := []
  handles : List String := ["", "!", "!!"]

abbrev Reader : Type → Type := StateT Reading Option

namespace Reader

def peek : Reader (Option Token) := do return (← get).tokens.head?

def skip : Reader Unit := modify fun r ↦ { r with tokens := r.tokens.drop 1 }

def expect (t : Token) : Reader Unit := do
  if (← peek) == some t then skip else failure

def sees (ts : List Token) : Reader Bool := do return (← peek).any ts.contains

def seesNothing (ts : List Token) : Reader Bool := do return (← peek).all ts.contains

def anchor? : Reader (Option String) := do
  match ← peek with
  | some (.anchor name) => do skip; return some name
  | _ => return none

def tag? : Reader Bool := do
  match ← peek with
  | some (.tag handle) => do
    if (← get).handles.contains handle then skip else failure
    return true
  | _ => return false

/-- The name of a node, and whether it has any property; tag and anchor may come in either order. -/
def properties : Reader (Option String × Bool) := do
  match ← anchor? with
  | some name => do
    let _ ← tag?
    return (some name, true)
  | none => do
    let tagged ← tag?
    let name ← anchor?
    return (name, tagged || name.isSome)

def announce (name : String) : Reader Unit :=
  modify fun r ↦ { r with anchors := (name, none) :: r.anchors }

def define (name : String) (y : Yaml) : Reader Unit :=
  modify fun r ↦ { r with anchors := r.anchors.map fun a ↦
    if a.1 == name then (name, a.2.or (some y)) else a }

def resolve (name : String) : Reader Yaml := do
  match (← get).anchors.lookup name with
  | some (some y) => return y
  | _ => failure

mutual

/-- A node. Only outside brackets may it have levels of its own; after a key a list need not be
indented. -/
def node : Nat → Bool → Bool → Reader Yaml
  | 0, _, _ => failure
  | fuel + 1, block, afterKey => do
    match ← peek with
    | some (.alias name) => do
      skip
      resolve name
    | _ => do
      let (name, hasProperties) ← properties
      name.forM announce
      let y ← content fuel block afterKey hasProperties
      name.forM (define · y)
      return y

def content : Nat → Bool → Bool → Bool → Reader Yaml
  | 0, _, _, _ => failure
  | fuel + 1, block, afterKey, mayBeEmpty => do
    match ← peek, block with
    | some (.scalar plain text), _ => do
      skip
      return .scalar plain text
    | some .flowList, _ => do
      skip
      return .list (← flowItems fuel true)
    | some .flowRecord, _ => do
      skip
      return .record (← flowFields fuel true)
    | some .blockList, true => do
      skip
      return .list (← blockItems fuel)
    | some .blockRecord, true => do
      skip
      return .record (← blockFields fuel)
    | some .item, _ => if afterKey then return .list (← bareItems fuel) else orEmpty mayBeEmpty
    | _, _ => orEmpty mayBeEmpty
where
  orEmpty (mayBeEmpty : Bool) : Reader Yaml := if mayBeEmpty then return empty else failure

def blockItems : Nat → Reader (List Yaml)
  | 0 => failure
  | fuel + 1 => do
    if ← sees [.blockEnd] then
      skip
      return []
    else
      expect .item
      let y ← if ← seesNothing [.item, .blockEnd] then pure empty else node fuel true false
      return y :: (← blockItems fuel)

def bareItems : Nat → Reader (List Yaml)
  | 0 => failure
  | fuel + 1 => do
    if ← sees [.item] then
      skip
      let y ← if ← seesNothing [.item, .key, .value, .blockEnd] then pure empty
        else node fuel true false
      return y :: (← bareItems fuel)
    else return []

def blockFields : Nat → Reader (List (Yaml × Yaml))
  | 0 => failure
  | fuel + 1 => do
    if ← sees [.blockEnd] then
      skip
      return []
    else
      expect .key
      let name ← blockPart fuel
      let y ← if ← sees [.value] then do
          skip
          blockPart fuel
        else pure empty
      return (name, y) :: (← blockFields fuel)

def blockPart : Nat → Reader Yaml
  | 0 => failure
  | fuel + 1 => do
    if ← seesNothing [.key, .value, .blockEnd] then return empty else node fuel true true

def flowItems : Nat → Bool → Reader (List Yaml)
  | 0, _ => failure
  | fuel + 1, first => do
    if ← sees [.flowListEnd] then
      skip
      return []
    else
      if !first then expect .comma
      if ← sees [.flowListEnd] then
        skip
        return []
      else
        let y ← if ← sees [.key] then do
            skip
            let name ← if ← seesNothing [.value, .comma, .flowListEnd] then do
                skip
                pure empty
              else node fuel false false
            pure (Yaml.record [(name, ← flowValue fuel [.comma, .flowListEnd])])
          else node fuel false false
        return y :: (← flowItems fuel false)

def flowFields : Nat → Bool → Reader (List (Yaml × Yaml))
  | 0, _ => failure
  | fuel + 1, first => do
    if ← sees [.flowRecordEnd] then
      skip
      return []
    else
      if !first then expect .comma
      if ← sees [.flowRecordEnd] then
        skip
        return []
      else
        let field ← if ← sees [.key] then do
            skip
            let name ← if ← seesNothing [.value, .comma, .flowRecordEnd] then pure empty
              else node fuel false false
            pure (name, ← flowValue fuel [.comma, .flowRecordEnd])
          else pure (← node fuel false false, empty)
        return field :: (← flowFields fuel false)

/-- The value of a field between brackets; `ends` are the tokens before which it is empty. -/
def flowValue : Nat → List Token → Reader Yaml
  | 0, _ => failure
  | fuel + 1, ends => do
    if ← sees [.value] then
      skip
      if ← seesNothing ends then return empty else node fuel false false
    else return empty

end

/-- The directives before a document: one version at most, and no handle twice. -/
def directives : Nat → Bool → Reader Unit
  | 0, _ => failure
  | fuel + 1, versioned => do
    match ← peek with
    | some (.version major minor) => do
      if versioned ∨ major ≠ 1 ∨ (minor ≠ 1 ∧ minor ≠ 2) then failure
      skip
      directives fuel true
    | some (.tagHandle handle) => do
      if ((← get).handles.drop 3).contains handle then failure
      skip
      modify fun r ↦ { r with handles := r.handles ++ [handle] }
      directives fuel versioned
    | _ => return

def skipDocumentEnds : Nat → Reader Unit
  | 0 => failure
  | fuel + 1 => do
    if ← sees [.documentEnd] then
      skip
      skipDocumentEnds fuel

def document (fuel : Nat) : Reader Yaml := do
  if (← peek).isNone then return empty
  else
    let before := (← get).tokens
    directives fuel false
    let y ←
      if (← get).tokens.length < before.length ∨ (← sees [.documentStart]) then do
        expect .documentStart
        if ← seesNothing [.documentStart, .documentEnd] then pure empty else node fuel true false
      else node fuel true false
    skipDocumentEnds fuel
    if (← peek).isSome then failure
    return y

end Reader

/-- The one document of a text; empty text is an empty document. -/
def parse? (s : String) : Option Yaml := do
  let tokens ← tokens? s.toList
  (Reader.document (4 * (tokens.length + 2))).run' { tokens }

end PodPlacement.Yaml
