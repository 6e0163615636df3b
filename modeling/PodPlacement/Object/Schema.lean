import PodPlacement.Json.Basic
import PodPlacement.Table
import PodPlacement.Time.Timestamp

/-!
Shapes of cluster objects. A shape reads a JSON value into its normal form: members it does not
know are dropped, `null` counts as absent, of a repeated member the last counts, a required member
that is absent gets the empty value of its shape, and a value of another shape is refused.
-/

namespace PodPlacement

mutual

inductive Schema
  | text
  | flag
  | int32
  | int64
  | timestamp
  | microTimestamp
  /-- A port number or a port name. -/
  | intOrText
  | anything
  | list (item : Schema)
  | table (item : Schema)
  | record (fields : Schema.Fields)

inductive Schema.Fields
  | nil
  | cons (name : String) (required : Bool) (shape : Schema) (rest : Schema.Fields)

end

namespace Schema

structure Field where
  name : String
  required : Bool
  shape : Schema

def Fields.ofList : List Field → Fields
  | [] => .nil
  | f :: fs => .cons f.name f.required f.shape (ofList fs)

def object (fields : List Field) : Schema := record (Fields.ofList fields)

def optional (shape : Schema) (names : List String) : List Field := names.map (⟨·, false, shape⟩)

def required (shape : Schema) (names : List String) : List Field := names.map (⟨·, true, shape⟩)

mutual

def empty : Schema → Json
  | text | timestamp | microTimestamp => .str ""
  | flag => .bool false
  | int32 | int64 | intOrText => .int 0
  | anything => .null
  | list _ => .arr []
  | table _ => .obj []
  | record fields => .obj (emptyFields fields)

def emptyFields : Fields → List (String × Json)
  | .nil => []
  | .cons name required shape rest =>
    if required then (name, shape.empty) :: emptyFields rest else emptyFields rest

end

def normalizeTime (places : Nat) : Json → Option Json
  | .str s => (Timestamp.parse? s).map fun t ↦ .str (t.text places)
  | _ => none

def occurrences (name : String) (members : List (String × Json)) : List Json :=
  (members.filter (·.1 == name)).map (·.2)

mutual

/-- The normal form of a value whose lists and objects may be nested `depth` levels deep. -/
def normalizeWithin : Schema → Nat → Json → Option Json
  | text, _, j => j.text?.map .str
  | flag, _, j => j.bool?.map .bool
  | int32, _, j => (j.int? .signed32).map .int
  | int64, _, j => (j.int? .signed64).map .int
  | timestamp, _, j => normalizeTime 0 j
  | microTimestamp, _, j => normalizeTime 6 j
  | intOrText, _, .str s => some (.str s)
  | intOrText, _, j => (j.int? .signed32).map .int
  | anything, depth, j => if j.denotes depth then some j else none
  | list item, depth + 1, .arr items => (items.mapM (normalizeWithin item depth)).map .arr
  | table item, depth + 1, .obj members =>
    (members.mapM fun m ↦ (normalizeWithin item depth m.2).map (m.1, ·)).map fun ms ↦
      .obj (Table.ofList ms).entries
  | record fields, depth + 1, .obj members => (normalizeFields fields depth members).map .obj
  | _, _, _ => none

def normalizeFields : Fields → Nat → List (String × Json) → Option (List (String × Json))
  | .nil, _, _ => some []
  | .cons name required shape rest, depth, members => do
    let values ← (occurrences name members).mapM fun j ↦
      if j.isNull then some none else (normalizeWithin shape depth j).map some
    let more ← normalizeFields rest depth members
    match values.getLast?.join with
    | some j => return (name, j) :: more
    | none => return if required then (name, shape.empty) :: more else more

end

def normalize (shape : Schema) (j : Json) : Option Json := shape.normalizeWithin Json.maxDepth j

end Schema

def Json.others (j : Json) (known : List String) : List (String × Json) :=
  match j with
  | .obj members => members.filter fun m ↦ !known.contains m.1
  | _ => []

end PodPlacement
