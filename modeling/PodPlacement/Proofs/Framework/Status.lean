import Mathlib.Order.BoundedOrder.Lattice
import PodPlacement.Framework.Status
import PodPlacement.Proofs.Table

/-!
Merging statuses takes the join of their codes in the order of their gravity. The order in which the
statuses come makes no difference to the code, nor do their names, nor does it matter whether some
of them were merged before.
-/

namespace PodPlacement

namespace Code

/-- A failure counts for more than any verdict, and a verdict for more if eviction cannot help. -/
def gravity : Code → Nat
  | success => 0
  | unschedulable => 1
  | unresolvable => 2
  | error => 3

theorem gravity_injective : Function.Injective gravity := by
  intro a b h
  cases a <;> cases b <;> simp_all [gravity]

/-- Codes in the order of their gravity. -/
instance : LinearOrder Code := LinearOrder.lift' gravity gravity_injective

instance : OrderBot Code where
  bot := success
  bot_le c := Nat.zero_le c.gravity

end Code

namespace Status

variable {s t u whole : Table Status} {c bound : Code}

theorem mergeCode_eq_sup (present next : Code) : mergeCode present next = present ⊔ next := by
  cases present <;> cases next <;> rfl

theorem foldl_mergeCode_le_iff {statuses : List Status} :
    statuses.foldl (fun c s ↦ mergeCode c s.code) c ≤ bound ↔
      c ≤ bound ∧ ∀ s ∈ statuses, s.code ≤ bound := by
  induction statuses generalizing c with
  | nil => simp
  | cons s statuses ih =>
    rw [List.foldl_cons, ih, mergeCode_eq_sup, sup_le_iff, List.forall_mem_cons, and_assoc]

/-- The merged code is the least that the code of no status exceeds. -/
theorem code_merge_le_iff : (merge t).code ≤ bound ↔ ∀ s ∈ t.values, s.code ≤ bound := by
  apply foldl_mergeCode_le_iff.trans
  exact and_iff_right bot_le

/-! ### The code by the codes that are there -/

def Gives (t : Table Status) (c : Code) : Prop := ∃ name s, t.get? name = some s ∧ s.code = c

theorem gives_iff : Gives t c ↔ ∃ s ∈ t.values, s.code = c := by
  simp only [Gives, Table.mem_values_iff]
  constructor
  · rintro ⟨name, s, hget, hcode⟩
    exact ⟨s, ⟨name, hget⟩, hcode⟩
  · rintro ⟨s, ⟨name, hget⟩, hcode⟩
    exact ⟨name, s, hget, hcode⟩

instance (t : Table Status) : DecidablePred (Gives t) := fun _ ↦ decidable_of_iff _ gives_iff.symm

theorem code_merge_eq (hgraver : ∀ d, c < d → ¬Gives t d) (hc : Gives t c ∨ c = .success) :
    (merge t).code = c := by
  apply le_antisymm
  · apply code_merge_le_iff.2
    intro s hs
    apply le_of_not_gt
    intro hlt
    exact hgraver s.code hlt (gives_iff.2 ⟨s, hs, rfl⟩)
  · rcases hc with hgives | rfl
    · obtain ⟨s, hs, rfl⟩ := gives_iff.1 hgives
      exact code_merge_le_iff.1 le_rfl s hs
    · exact bot_le

theorem code_merge (t : Table Status) : (merge t).code =
    if Gives t .error then .error
    else if Gives t .unresolvable then .unresolvable
    else if Gives t .unschedulable then .unschedulable
    else .success := by
  split_ifs with herror hunresolvable hunschedulable
  · apply code_merge_eq _ (.inl herror)
    intro d hd
    cases d <;> exact absurd hd (by decide)
  · apply code_merge_eq _ (.inl hunresolvable)
    intro d hd
    cases d with
    | error => exact herror
    | unresolvable | unschedulable | success => exact absurd hd (by decide)
  · apply code_merge_eq _ (.inl hunschedulable)
    intro d hd
    cases d with
    | error => exact herror
    | unresolvable => exact hunresolvable
    | unschedulable | success => exact absurd hd (by decide)
  · apply code_merge_eq _ (.inr rfl)
    intro d hd
    cases d with
    | error => exact herror
    | unresolvable => exact hunresolvable
    | unschedulable => exact hunschedulable
    | success => exact absurd hd (by decide)

/-! ### Merging parts -/

/-- Statuses may be merged part by part, and the names are free at every stage. -/
theorem code_merge_parts (parts : List (Table Status))
    (hu : u.values.Perm (parts.flatMap (·.values))) (hwhole : whole.values.Perm (parts.map merge)) :
    (merge u).code = (merge whole).code := by
  apply eq_of_forall_ge_iff
  intro bound
  have hparts : (∀ s ∈ parts.flatMap (·.values), s.code ≤ bound) ↔
      ∀ s ∈ parts.map merge, s.code ≤ bound := by
    simp only [List.mem_flatMap, List.forall_mem_map, code_merge_le_iff]
    constructor
    · intro h part hpart s hs
      exact h s ⟨part, hpart, hs⟩
    · rintro h s ⟨part, hpart, hs⟩
      exact h part hpart s hs
  simp only [code_merge_le_iff, hu.mem_iff, hwhole.mem_iff, hparts]

theorem code_merge_joins (h : s.Joins t u) :
    (merge u).code = mergeCode (merge s).code (merge t).code := by
  apply eq_of_forall_ge_iff
  intro bound
  simp only [mergeCode_eq_sup, sup_le_iff, code_merge_le_iff, h.values_perm.mem_iff,
    List.mem_append, or_imp, forall_and]

/-- Merging statuses is a join: the gravest code is the merged one, every reason is kept in the
order of the names, and merging two tables that share no name, or any number of parts under any
names, comes to merging what was merged of each. -/
theorem merge_gravest (t : Table Status) :
    ((merge t).code =
      if Gives t .error then .error
      else if Gives t .unresolvable then .unresolvable
      else if Gives t .unschedulable then .unschedulable
      else .success) ∧
    (∀ names : List String, names.Pairwise (· < ·) →
      (∀ name, name ∈ names ↔ ∃ s, t.get? name = some s) →
      (merge t).reasons = names.flatMap fun name ↦ (t.get? name).elim [] (·.reasons)) ∧
    (∀ s u, t.Joins s u → (merge u).code = mergeCode (merge t).code (merge s).code ∧
      ∀ a b, a ≠ b → (merge u).code = (merge (.ofList [(a, merge t), (b, merge s)])).code) ∧
    ∀ (parts : List (Table Status)) (whole : Table Status),
      t.values.Perm (parts.flatMap (·.values)) → whole.values.Perm (parts.map merge) →
      (merge t).code = (merge whole).code := by
  refine ⟨code_merge t, fun names hascending hnames ↦ ?reasons, fun s u hjoins ↦ ⟨?joined, ?apart⟩,
    fun parts whole hparts hwhole ↦ ?parts⟩
  case reasons =>
    have hkeys : names = t.keys := by
      apply Table.eq_keys_of_ascending hascending
      intro name
      rw [hnames, Table.mem_keys_iff]
    rw [hkeys]
    exact t.flatMap_values (·.reasons)
  case joined => exact code_merge_joins hjoins
  case apart =>
    intro a b hab
    apply code_merge_parts [t, s]
    · simpa using hjoins.values_perm
    · exact Table.values_ofList_perm (by simpa using hab)
  case parts => exact code_merge_parts parts hparts hwhole

/-- Two plugins refuse a node, one of them for good, and a third fails. The failure is what counts,
also when it was merged apart from the others and has a name that comes last. -/
theorem merge_gravest_three :
    let failing : Table Status := .ofList [("ImageLocality", .error "broken")]
    let refusing : Table Status := .ofList
      [("TaintToleration", .unresolvable "tainted"),
        ("NodeResourcesFit", ⟨.unschedulable, ["cpu", "memory"]⟩)]
    let all : Table Status := .ofList
      [("NodeResourcesFit", ⟨.unschedulable, ["cpu", "memory"]⟩),
        ("ImageLocality", .error "broken"), ("TaintToleration", .unresolvable "tainted")]
    let whole : Table Status := .ofList [("a", merge refusing), ("b", merge failing)]
    failing.Joins refusing all ∧ (merge refusing).code = .unresolvable ∧
      (merge all).code = .error ∧ (merge whole).code = .error ∧
      (merge all).reasons = ["broken", "cpu", "memory", "tainted"] := by
  intro failing refusing all whole
  have hjoins : failing.Joins refusing all := by
    refine ⟨by decide, fun name ↦ ?_⟩
    simp only [failing, refusing, all, Table.ofList, List.foldl_cons, List.foldl_nil,
      Table.get?_insert]
    split_ifs <;> simp_all
  have hrefusing : (merge refusing).code = .unresolvable := by
    rw [(merge_gravest refusing).1]
    decide
  have hall : (merge all).code = .error := by
    rw [((merge_gravest failing).2.2.1 refusing all hjoins).1, hrefusing]
    decide
  have hwhole : (merge all).code = (merge whole).code :=
    (merge_gravest all).2.2.2 [refusing, failing] whole (by decide) (by decide)
  have hreasons := (merge_gravest all).2.1
    ["ImageLocality", "NodeResourcesFit", "TaintToleration"] (by decide)
    fun name ↦ Table.mem_keys_iff (t := all)
  exact ⟨hjoins, hrefusing, hall, hwhole ▸ hall, hreasons⟩

end Status

end PodPlacement
