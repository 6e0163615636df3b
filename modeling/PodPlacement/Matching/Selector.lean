import PodPlacement.Object.Node
import PodPlacement.Object.Pod

/-!
Selection by labels. Pods are selected by label selectors, nodes by selector terms; the two agree
on the operators they share, and terms also compare numbers.
-/

namespace PodPlacement

namespace Requirement

def valueList (r : Requirement) : List String := r.values.getD []

def admits (r : Requirement) (value : Option String) : Bool :=
  match r.operator with
  | "In" => value.any r.valueList.contains
  | "NotIn" => value.all fun v ↦ !r.valueList.contains v
  | "Exists" => value.isSome
  | "DoesNotExist" => value.isNone
  | _ => false

def integer? (s : String) : Option Int := (Text.readInteger .signed64 s.toList).toOption

def compares (r : Requirement) (test : Int → Int → Bool) (value : Option String) : Bool :=
  match value, r.valueList with
  | some actual, [bound] =>
    match integer? actual, integer? bound with
    | some a, some b => test a b
    | _, _ => false
  | _, _ => false

def admitsNode (r : Requirement) (value : Option String) : Bool :=
  match r.operator with
  | "In" => value.any r.valueList.contains
  | "NotIn" => value.all fun v ↦ !r.valueList.contains v
  | "Exists" => value.isSome
  | "DoesNotExist" => value.isNone
  | "Gt" => r.compares (fun a b ↦ b < a) value
  | "Lt" => r.compares (fun a b ↦ a < b) value
  | _ => false

end Requirement

def hasLabels (wanted labels : Table String) : Bool :=
  wanted.entries.all fun e ↦ labels.get? e.1 == some e.2

/-- A selector without any requirement selects everything. -/
def LabelSelector.selects (s : LabelSelector) (labels : Table String) : Bool :=
  hasLabels (s.matchLabels.getD ∅) labels &&
    (s.matchExpressions.getD []).all fun r ↦ r.admits (labels.get? r.key)

namespace NodeSelectorTerm

def expressions (t : NodeSelectorTerm) : List Requirement := t.matchExpressions.getD []

def fields (t : NodeSelectorTerm) : List Requirement := t.matchFields.getD []

/-- The one field of a node that terms can speak of is its name. -/
def nodeField (n : Node) (key : String) : Option String :=
  if key = "metadata.name" then some n.name else none

/-- A term without any requirement selects nothing. -/
def selects (t : NodeSelectorTerm) (n : Node) : Bool :=
  !(t.expressions.isEmpty && t.fields.isEmpty) &&
    t.expressions.all (fun r ↦ r.admitsNode (n.labels.get? r.key)) &&
    t.fields.all fun r ↦ r.admitsNode (nodeField n r.key)

end NodeSelectorTerm

def anyTermSelects (terms : List NodeSelectorTerm) (n : Node) : Bool := terms.any (·.selects n)

namespace Pod

def nodeAffinity? (p : Pod) : Option NodeAffinity := p.affinity?.bind (·.node)

def preferredNodeTerms (p : Pod) : List PreferredNodeTerm :=
  (p.nodeAffinity?.bind (·.preferred)).getD []

def acceptsNode (p : Pod) (n : Node) : Bool :=
  hasLabels p.nodeSelector n.labels &&
    (p.nodeAffinity?.bind (·.required)).all fun terms ↦ anyTermSelects terms n

end Pod

end PodPlacement
