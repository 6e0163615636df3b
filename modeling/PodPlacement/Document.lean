import PodPlacement.Json.Basic

/-!
Reading records out of a document, whatever format it is written in. A record may leave out fields
that have a default, must not give a field twice, and may carry fields that nobody asks for, unless
it is read strictly.
-/

namespace PodPlacement

class Document (δ : Type) where
  text? : δ → Option String
  flag? : δ → Option Bool
  natural? : Text.IntegerRange → δ → Option Nat
  integer? : Text.IntegerRange → δ → Option Int
  number? : δ → Option Float
  /-- Nothing stands here, where something may be left out. -/
  isAbsent : δ → Bool
  items? : δ → Option (List δ)
  /-- The fields of a record; formats that know records as plain lists name them in the order
  given. -/
  fields? : List String → δ → Option (List (String × δ))

/-- The fields that were given, each at most once. -/
structure Fields (δ : Type) where
  given : List (String × δ)

namespace Fields

variable {δ : Type} {α : Type}

def distinct (names : List String) (given : List (String × δ)) : Bool :=
  names.all fun name ↦ given.countP (·.1 == name) ≤ 1

def read [Document δ] (names : List String) (d : δ) : Option (Fields δ) := do
  let given ← Document.fields? names d
  if distinct names given then some ⟨given⟩ else none

def readStrictly [Document δ] (names : List String) (d : δ) : Option (Fields δ) := do
  let fields ← read names d
  if fields.given.all (fun f ↦ names.contains f.1) then some fields else none

def required (f : Fields δ) (name : String) (decode : δ → Option α) : Option α :=
  (f.given.lookup name).bind decode

def optional (f : Fields δ) (name : String) (fallback : α) (decode : δ → Option α) : Option α :=
  match f.given.lookup name with
  | some d => decode d
  | none => some fallback

end Fields

namespace Document

variable {δ : Type} {α : Type} [Document δ]

def listOf? (decode : δ → Option α) (d : δ) : Option (List α) := (items? d).bind (·.mapM decode)

def optional? (decode : δ → Option α) (d : δ) : Option (Option α) :=
  if isAbsent d then some none else (decode d).map some

end Document

namespace Json

/-- A record is an object, or a list of no more items than there are names. -/
def fields? (names : List String) : Json → Option (List (String × Json))
  | obj members => some members
  | arr items => if items.length ≤ names.length then some (names.zip items) else none
  | _ => none

instance : Document Json where
  text? := text?
  flag? := bool?
  natural? := nat?
  integer? := int?
  number? := float?
  isAbsent := isNull
  items?
    | arr items => some items
    | _ => none
  fields? := fields?

end Json

end PodPlacement
