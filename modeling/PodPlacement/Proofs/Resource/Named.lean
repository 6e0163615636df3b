import PodPlacement.Proofs.Table
import PodPlacement.Resource.Amounts

/-!
Amounts by the name of the resource, whichever kind it is, and what a resource list does to each of
them: a list changes what it names once and nothing else.
-/

namespace PodPlacement

/-- What the list says of a resource; text that cannot be read counts as nothing. -/
def Quantity.listed? (list : ResourceList) (name : String) : Option Int :=
  (list.get? name).map (ofNamed name)

namespace Amounts

def plainNames : List String := ["cpu", "memory", "ephemeral-storage", "pods"]

def amount (q : Amounts) (name : String) : Int :=
  match name with
  | "cpu" => q.cpu
  | "memory" => q.memory
  | "ephemeral-storage" => q.ephemeral
  | "pods" => q.pods
  | name => q.extended.getD name 0

def combine (f : Int → Int → Int) (q : Amounts) (list : ResourceList) : Amounts :=
  list.foldl (fun q name text ↦ q.update f name (Quantity.ofNamed name text)) q

/-! ### One entry -/

section Update

variable {f : Int → Int → Int} {q : Amounts} {name other : String} {value : Int}

theorem amount_of_not_plain (h : name ∉ plainNames) : q.amount name = q.extended.getD name 0 := by
  unfold amount
  split
  case h_5 => rfl
  all_goals exact absurd (by decide) h

theorem update_of_not_plain (h : name ∉ plainNames) : q.update f name value =
    { q with extended := q.extended.adjust name fun old ↦ f (old.getD 0) value } := by
  unfold update
  split
  case h_5 => rfl
  all_goals exact absurd (by decide) h

theorem plain_cases (h : name ∈ plainNames) :
    name = "cpu" ∨ name = "memory" ∨ name = "ephemeral-storage" ∨ name = "pods" := by
  simpa [plainNames] using h

theorem amount_update_self : (q.update f name value).amount name = f (q.amount name) value := by
  by_cases h : name ∈ plainNames
  · rcases plain_cases h with rfl | rfl | rfl | rfl <;> rfl
  · rw [amount_of_not_plain h, amount_of_not_plain h, update_of_not_plain h]
    simp [Table.getD, Table.adjust]

theorem extended_update_of_plain (h : name ∈ plainNames) :
    (q.update f name value).extended = q.extended := by
  rcases plain_cases h with rfl | rfl | rfl | rfl <;> rfl

theorem amount_update_of_ne (hne : other ≠ name) :
    (q.update f name value).amount other = q.amount other := by
  by_cases h : other ∈ plainNames
  · unfold update
    rcases plain_cases h with rfl | rfl | rfl | rfl <;> split <;> first | rfl | exact absurd rfl hne
  · rw [amount_of_not_plain h, amount_of_not_plain h]
    by_cases hname : name ∈ plainNames
    · rw [extended_update_of_plain hname]
    · rw [update_of_not_plain hname]
      simp [Table.getD, Table.adjust, hne]

theorem mem_keys_update : other ∈ (q.update f name value).extended.keys ↔
    other ∈ q.extended.keys ∨ other = name ∧ name ∉ plainNames := by
  by_cases h : name ∈ plainNames
  · simp [extended_update_of_plain h, h]
  · rw [update_of_not_plain h]
    by_cases hname : other = name <;> simp [Table.mem_keys_iff, Table.adjust, hname, h]

end Update

/-! ### A whole list -/

variable (f : Int → Int → Int) (q : Amounts) (list : ResourceList) (name : String)

theorem amount_zero : zero.amount name = 0 := by
  unfold amount
  split <;> rfl

theorem amount_combine : (q.combine f list).amount name =
    (Quantity.listed? list name).elim (q.amount name) (f (q.amount name)) := by
  unfold combine
  rw [list.foldl_read name (amount · name) (fun old text ↦ f old (Quantity.ofNamed name text))
    (fun _ _ ↦ amount_update_self) (fun _ _ _ hne ↦ amount_update_of_ne hne), Quantity.listed?]
  cases list.get? name <;> rfl

theorem mem_keys_combine : name ∈ (q.combine f list).extended.keys ↔
    name ∈ q.extended.keys ∨ name ∈ list.keys ∧ name ∉ plainNames := by
  unfold combine
  rw [list.foldl_read name (fun q : Amounts ↦ name ∈ q.extended.keys)
    (fun old _ ↦ (old ∨ name ∉ plainNames))
    (fun _ _ ↦ by simp [mem_keys_update]) (fun _ _ _ hne ↦ by simp [mem_keys_update, hne]),
    Table.mem_keys_iff (t := list)]
  cases list.get? name <;> simp

end Amounts

end PodPlacement
