import PodPlacement.Table

/-!
What a plugin says about a pod or a node: a code and the reasons for it. Several statuses merge
into one, the gravest code winning.
-/

namespace PodPlacement

inductive Code
  | success
  /-- The plugin itself failed; this is no verdict. -/
  | error
  /-- The node does not fit, but evicting pods might change that. -/
  | unschedulable
  /-- The node does not fit, and evicting pods cannot help. -/
  | unresolvable
deriving DecidableEq, Repr, Inhabited

def Code.text : Code → String
  | success => "Success"
  | error => "Error"
  | unschedulable => "Unschedulable"
  | unresolvable => "UnschedulableAndUnresolvable"

structure Status where
  code : Code := .success
  reasons : List String := []
deriving DecidableEq, Repr, Inhabited

namespace Status

def success : Status := {}

def error (reason : String) : Status := ⟨.error, [reason]⟩

def unschedulable (reason : String) : Status := ⟨.unschedulable, [reason]⟩

def unresolvable (reason : String) : Status := ⟨.unresolvable, [reason]⟩

def message (s : Status) : String := ", ".intercalate s.reasons

def text (s : Status) : String :=
  if s.reasons.isEmpty then s.code.text else s.code.text ++ ": " ++ s.message

def isSuccess (s : Status) : Bool := s.code == .success

def isUnschedulable (s : Status) : Bool := s.code == .unschedulable || s.code == .unresolvable

def addReason (s : Status) (reason : String) : Status := { s with reasons := s.reasons ++ [reason] }

def check (holds : Bool) (verdict : Status) : Status := if holds then success else verdict

def mergeCode (present : Code) (next : Code) : Code :=
  match next, present with
  | .error, _ => .error
  | .unresolvable, .error => .error
  | .unresolvable, _ => .unresolvable
  | .unschedulable, .success => .unschedulable
  | _, c => c

def merge (statuses : Table Status) : Status where
  code := statuses.values.foldl (fun c s ↦ mergeCode c s.code) .success
  reasons := statuses.values.flatMap (·.reasons)

end Status

end PodPlacement
