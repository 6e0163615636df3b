import PodPlacement.Error
import PodPlacement.Object.Pod
import PodPlacement.Text.Quoted

/-!
The key of a workload, `namespace/name`. Text without a slash is a name with an empty namespace.
-/

namespace PodPlacement

structure WorkloadKey where
  space : String
  name : String
deriving DecidableEq, Repr, Inhabited

namespace WorkloadKey

def text (k : WorkloadKey) : String :=
  if k.space.isEmpty then k.name else k.space ++ "/" ++ k.name

def isNamespaced (k : WorkloadKey) : Bool := !k.space.isEmpty

def parse (s : String) : Except ClusterError WorkloadKey :=
  match s.toList.splitOn '/' with
  | [c :: name] => .ok ⟨"", String.ofList (c :: name)⟩
  | [space, c :: name] => .ok ⟨String.ofList space, String.ofList (c :: name)⟩
  | _ => .error (.invalidObject ("unexpected key format: " ++ Text.quoted s)
      "Use the form <namespace>/<name>")

def ofPod (p : Pod) : Except ClusterError WorkloadKey :=
  match p.metadata.name with
  | some name => .ok ⟨p.space, name⟩
  | none => .error (.invalidObject "Pod has no name" "Set metadata.name on the pod")

/-- Namespaces first, then names. -/
instance : LT WorkloadKey where
  lt a b := a.space < b.space ∨ (a.space = b.space ∧ a.name < b.name)

instance (a b : WorkloadKey) : Decidable (a < b) :=
  inferInstanceAs (Decidable (a.space < b.space ∨ (a.space = b.space ∧ a.name < b.name)))

def sortDistinct (keys : List WorkloadKey) : List WorkloadKey :=
  (keys.mergeSort fun a b ↦ !decide (b < a)).foldr
    (fun k ks ↦ if ks.head? = some k then ks else k :: ks) []

end WorkloadKey

def Pod.keyText? (p : Pod) : Option String := (WorkloadKey.ofPod p).toOption.map (·.text)

end PodPlacement
