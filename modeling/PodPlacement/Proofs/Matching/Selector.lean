import Mathlib.Tactic.MkIffOfInductiveProp
import PodPlacement.Matching.Selector

/-!
What selectors and terms ask of labels. A requirement asks for the same in both, unless it compares
numbers, and what it asks depends on its key, its operator and the set of its values alone. More
requirements never select more.
-/

namespace PodPlacement

namespace Requirement

variable {r r' : Requirement} {rs rs' : List Requirement} {value : Option String}
  {labels : Table String}

/-! ### One requirement -/

/-- The value of the label is as the requirement asks. No value is as an operator asks that is not
known. -/
@[mk_iff]
inductive Met (r : Requirement) (value : Option String) : Prop
  | among (v : String) : r.operator = "In" → value = some v → v ∈ r.valueList → Met r value
  | notAmong : r.operator = "NotIn" → (∀ v, value = some v → v ∉ r.valueList) → Met r value
  | present : r.operator = "Exists" → value ≠ none → Met r value
  | absent : r.operator = "DoesNotExist" → value = none → Met r value

theorem admits_iff : r.admits value = true ↔ r.Met value := by
  rw [met_iff]
  unfold admits
  split
  case h_1 hin => cases value <;> simp [hin]
  case h_2 hnotIn => cases value <;> simp [hnotIn]
  case h_3 hexists => cases value <;> simp [hexists]
  case h_4 habsent => cases value <;> simp [habsent]
  case h_5 => simp_all

def Compares (r : Requirement) : Prop := r.operator = "Gt" ∨ r.operator = "Lt"

theorem admitsNode_eq_admits (h : ¬r.Compares) (value : Option String) :
    r.admitsNode value = r.admits value := by
  simp only [Compares, not_or] at h
  unfold admitsNode admits
  split <;> simp_all

def opposites : List (String × String) := [("In", "NotIn"), ("Exists", "DoesNotExist")]

theorem admits_opposite {o : String × String} (ho : o ∈ opposites) (key : String)
    (values : Option (List String)) (value : Option String) :
    admits ⟨key, o.2, values⟩ value = !admits ⟨key, o.1, values⟩ value := by
  simp only [opposites, List.mem_cons, List.not_mem_nil, or_false] at ho
  rcases ho with rfl | rfl
  · cases value <;> simp [admits, valueList]
  · cases value <;> simp [admits]

theorem not_compares_of_opposites {o : String × String} (ho : o ∈ opposites) (key : String)
    (values : Option (List String)) :
    ¬Compares ⟨key, o.1, values⟩ ∧ ¬Compares ⟨key, o.2, values⟩ := by
  simp only [opposites, List.mem_cons, List.not_mem_nil, or_false] at ho
  rcases ho with rfl | rfl <;> simp [Compares]

/-! ### Requirements in other words -/

/-- The two ask for the same of the same label. The order of the values is free, and a value may be
listed again. -/
structure Alike (r r' : Requirement) : Prop where
  key : r.key = r'.key
  operator : r.operator = r'.operator
  values : ∀ v, v ∈ r.valueList ↔ v ∈ r'.valueList

theorem Alike.symm (h : r.Alike r') : r'.Alike r :=
  ⟨h.key.symm, h.operator.symm, fun v ↦ (h.values v).symm⟩

theorem Met.of_alike (h : r.Met value) (halike : r.Alike r') : r'.Met value := by
  have hoperator := halike.operator
  cases h with
  | among v hin hv hmem => exact .among v (hoperator ▸ hin) hv ((halike.values v).1 hmem)
  | notAmong hnotIn hv =>
    refine .notAmong (hoperator ▸ hnotIn) fun v hsome hmem ↦ ?_
    exact hv v hsome ((halike.values v).2 hmem)
  | present hexists hv => exact .present (hoperator ▸ hexists) hv
  | absent habsent hv => exact .absent (hoperator ▸ habsent) hv

def AllMet (rs : List Requirement) (labels : Table String) : Prop :=
  ∀ r ∈ rs, r.Met (labels.get? r.key)

structure AllAlike (rs rs' : List Requirement) : Prop where
  left : ∀ r ∈ rs, ∃ r' ∈ rs', r.Alike r'
  right : ∀ r' ∈ rs', ∃ r ∈ rs, r'.Alike r

theorem AllAlike.symm (h : AllAlike rs rs') : AllAlike rs' rs := ⟨h.right, h.left⟩

theorem AllAlike.ne_nil (h : AllAlike rs rs') (hne : rs ≠ []) : rs' ≠ [] := by
  obtain ⟨r, hr⟩ := List.exists_mem_of_ne_nil rs hne
  obtain ⟨r', hr', _⟩ := h.left r hr
  exact List.ne_nil_of_mem hr'

theorem AllAlike.not_compares (h : AllAlike rs rs') (hrs : ∀ r ∈ rs, ¬r.Compares) :
    ∀ r' ∈ rs', ¬r'.Compares := by
  intro r' hr' hcompares
  obtain ⟨r, hr, halike⟩ := h.right r' hr'
  rw [Compares, halike.operator] at hcompares
  exact hrs r hr hcompares

theorem AllMet.of_alike (hmet : AllMet rs labels) (h : AllAlike rs rs') : AllMet rs' labels := by
  intro r' hr'
  obtain ⟨r, hr, halike⟩ := h.right r' hr'
  rw [halike.key]
  exact (hmet r hr).of_alike halike.symm

theorem allMet_congr (h : AllAlike rs rs') : AllMet rs labels ↔ AllMet rs' labels :=
  ⟨fun hmet ↦ hmet.of_alike h, fun hmet ↦ hmet.of_alike h.symm⟩

def explicit (r : Requirement) : Requirement := { r with values := some r.valueList }

end Requirement

open Requirement

variable {rs rs' : List Requirement} {labels : Table String} {n : Node}

theorem hasLabels_iff {wanted : Table String} : hasLabels wanted labels = true ↔
    ∀ k v, wanted.get? k = some v → labels.get? k = some v := by
  simp [hasLabels, Table.get?_eq_some_iff]

/-! ### Selectors -/

namespace LabelSelector

def ofRequirements (rs : List Requirement) : LabelSelector := { matchExpressions := some rs }

/-- The selector with all its lists there, be it that they are empty. -/
def explicit (s : LabelSelector) : LabelSelector where
  matchLabels := some (s.matchLabels.getD ∅)
  matchExpressions := some ((s.matchExpressions.getD []).map (·.explicit))

theorem selects_explicit (s : LabelSelector) (labels : Table String) :
    s.explicit.selects labels = s.selects labels := by
  simp only [explicit, selects, Option.getD_some, List.all_map]
  rfl

theorem selects_ofRequirements (rs : List Requirement) (labels : Table String) :
    (ofRequirements rs).selects labels = rs.all fun r ↦ r.admits (labels.get? r.key) := rfl

theorem selects_ofRequirements_iff :
    (ofRequirements rs).selects labels = true ↔ AllMet rs labels := by
  simp only [selects_ofRequirements, List.all_eq_true, admits_iff, AllMet]

end LabelSelector

/-! ### Terms -/

namespace NodeSelectorTerm

def ofRequirements (rs : List Requirement) : NodeSelectorTerm := { matchExpressions := some rs }

def explicit (t : NodeSelectorTerm) : NodeSelectorTerm where
  matchExpressions := some (t.expressions.map (·.explicit))
  matchFields := some (t.fields.map (·.explicit))

theorem selects_explicit (t : NodeSelectorTerm) (n : Node) :
    t.explicit.selects n = t.selects n := by
  have hexpressions : t.explicit.expressions = t.expressions.map (·.explicit) := rfl
  have hfields : t.explicit.fields = t.fields.map (·.explicit) := rfl
  simp only [selects, hexpressions, hfields, List.all_map, List.isEmpty_map]
  rfl

theorem selects_ofRequirements :
    (ofRequirements rs).selects n = true ↔
      rs ≠ [] ∧ ∀ r ∈ rs, r.admitsNode (n.labels.get? r.key) = true := by
  simp [ofRequirements, selects, expressions, fields]

theorem selects_ofRequirements_iff (h : ∀ r ∈ rs, ¬r.Compares) :
    (ofRequirements rs).selects n = true ↔ rs ≠ [] ∧ AllMet rs n.labels := by
  rw [selects_ofRequirements]
  apply and_congr_right
  intro _
  apply forall₂_congr
  intro r hr
  rw [admitsNode_eq_admits (h r hr), admits_iff]

/-- A term without fields is a selector that there has to be a requirement for. -/
theorem selects_eq_selector (hne : rs ≠ []) (h : ∀ r ∈ rs, ¬r.Compares) :
    (ofRequirements rs).selects n = (LabelSelector.ofRequirements rs).selects n.labels := by
  rw [Bool.eq_iff_iff, selects_ofRequirements_iff h, LabelSelector.selects_ofRequirements_iff]
  exact and_iff_right hne

end NodeSelectorTerm

theorem Pod.acceptsNode_iff {p : Pod} : p.acceptsNode n = true ↔
    LabelSelector.selects { matchLabels := p.spec.bind (·.nodeSelector) } n.labels = true ∧
      ∀ terms, p.nodeAffinity?.bind (·.required) = some terms →
        ∃ t ∈ terms, t.selects n = true := by
  simp only [acceptsNode, LabelSelector.selects, Bool.and_eq_true, Option.all_eq_true,
    anyTermSelects, List.any_eq_true, Option.getD_none, List.all_nil, and_true]
  rfl

/-- Selectors for labels and terms for nodes agree wherever both can say something. Neither heeds
the order of requirements or of values, nor how often one is listed, nor whether an empty list is
there, and neither selects more for being given more requirements. -/
theorem evaluators_agree (hn : n.labels = labels) :
    (∀ rs, rs ≠ [] → (∀ r ∈ rs, ¬r.Compares) →
      (NodeSelectorTerm.ofRequirements rs).selects n =
        (LabelSelector.ofRequirements rs).selects labels) ∧
    (LabelSelector.ofRequirements []).selects labels = true ∧
    (NodeSelectorTerm.ofRequirements []).selects n = false ∧
    (∀ p : Pod, p.acceptsNode n = true ↔
      LabelSelector.selects { matchLabels := p.spec.bind (·.nodeSelector) } labels = true ∧
        ∀ terms, p.nodeAffinity?.bind (·.required) = some terms →
          ∃ t ∈ terms, t.selects n = true) ∧
    (∀ wanted, LabelSelector.selects { matchLabels := some wanted } labels = true ↔
      ∀ k v, wanted.get? k = some v → labels.get? k = some v) ∧
    (∀ o ∈ [("In", "NotIn"), ("Exists", "DoesNotExist")], ∀ key values,
      (LabelSelector.ofRequirements [⟨key, o.2, values⟩]).selects labels =
        !(LabelSelector.ofRequirements [⟨key, o.1, values⟩]).selects labels ∧
      (NodeSelectorTerm.ofRequirements [⟨key, o.2, values⟩]).selects n =
        !(NodeSelectorTerm.ofRequirements [⟨key, o.1, values⟩]).selects n) ∧
    (∀ rs rs', (∀ r ∈ rs, ¬r.Compares) → AllAlike rs rs' →
      (LabelSelector.ofRequirements rs).selects labels =
        (LabelSelector.ofRequirements rs').selects labels ∧
      (NodeSelectorTerm.ofRequirements rs).selects n =
        (NodeSelectorTerm.ofRequirements rs').selects n) ∧
    (∀ s : LabelSelector, s.explicit.selects labels = s.selects labels) ∧
    (∀ t : NodeSelectorTerm, t.explicit.selects n = t.selects n) ∧
    ∀ rs rs', rs ≠ [] → rs ⊆ rs' →
      ((LabelSelector.ofRequirements rs').selects labels = true →
        (LabelSelector.ofRequirements rs).selects labels = true) ∧
      ((NodeSelectorTerm.ofRequirements rs').selects n = true →
        (NodeSelectorTerm.ofRequirements rs).selects n = true) := by
  subst hn
  refine ⟨fun rs hne h ↦ NodeSelectorTerm.selects_eq_selector hne h, rfl, rfl,
    fun p ↦ Pod.acceptsNode_iff, fun wanted ↦ ?labels, fun o ho key values ↦ ?negation,
    fun rs rs' h halike ↦ ?order, fun s ↦ s.selects_explicit n.labels,
    fun t ↦ t.selects_explicit n, fun rs rs' hne hsub ↦ ?more⟩
  case labels => simp [LabelSelector.selects, hasLabels_iff]
  case negation =>
    obtain ⟨hpositive, hnegative⟩ := not_compares_of_opposites ho key values
    have hselector : (LabelSelector.ofRequirements [⟨key, o.2, values⟩]).selects n.labels =
        !(LabelSelector.ofRequirements [⟨key, o.1, values⟩]).selects n.labels := by
      simp only [LabelSelector.selects_ofRequirements, List.all_cons, List.all_nil, Bool.and_true]
      exact admits_opposite ho key values (n.labels.get? key)
    refine ⟨hselector, ?_⟩
    rw [NodeSelectorTerm.selects_eq_selector (by simp) (by simpa using hnegative),
      NodeSelectorTerm.selects_eq_selector (by simp) (by simpa using hpositive)]
    exact hselector
  case order =>
    have hmet : AllMet rs n.labels ↔ AllMet rs' n.labels := allMet_congr halike
    have hne : rs ≠ [] ↔ rs' ≠ [] := ⟨halike.ne_nil, halike.symm.ne_nil⟩
    constructor
    · rw [Bool.eq_iff_iff, LabelSelector.selects_ofRequirements_iff,
        LabelSelector.selects_ofRequirements_iff, hmet]
    · rw [Bool.eq_iff_iff, NodeSelectorTerm.selects_ofRequirements_iff h,
        NodeSelectorTerm.selects_ofRequirements_iff (halike.not_compares h), hne, hmet]
  case more =>
    constructor
    · intro hselects
      rw [LabelSelector.selects_ofRequirements, List.all_eq_true] at hselects ⊢
      exact fun r hr ↦ hselects r (hsub hr)
    · intro hselects
      rw [NodeSelectorTerm.selects_ofRequirements] at hselects ⊢
      exact ⟨hne, fun r hr ↦ hselects.2 r (hsub hr)⟩

/-- A node that meets two requirements, which are then listed in another order, one of them twice
and the other with its values repeated, and a third requirement that it does not meet. -/
theorem evaluators_agree_relisted :
    let n : Node := { metadata := { labels := some (.ofList [("zone", "a"), ("disk", "ssd")]) } }
    let zone : Requirement := ⟨"zone", "In", some ["a", "b"]⟩
    let zone' : Requirement := ⟨"zone", "In", some ["b", "a", "b"]⟩
    let gpu : Requirement := ⟨"gpu", "DoesNotExist", none⟩
    let gpu' : Requirement := ⟨"gpu", "DoesNotExist", some []⟩
    let elsewhere : Requirement := ⟨"zone", "NotIn", some ["a", "b"]⟩
    (∀ r ∈ [zone, gpu], ¬r.Compares) ∧ AllAlike [zone, gpu] [gpu', zone', gpu] ∧
      (LabelSelector.ofRequirements [gpu', zone', gpu]).selects n.labels = true ∧
      (NodeSelectorTerm.ofRequirements [gpu', zone', gpu]).selects n = true ∧
      (NodeSelectorTerm.ofRequirements [elsewhere]).selects n = false ∧
      (NodeSelectorTerm.ofRequirements [gpu, elsewhere]).selects n = false := by
  intro n zone zone' gpu gpu' elsewhere
  have hshared : ∀ r ∈ [zone, gpu], ¬r.Compares := by simp [zone, gpu, Compares]
  have hzone : zone.Alike zone' := by
    refine ⟨rfl, rfl, fun v ↦ ?_⟩
    simpa [zone, zone', valueList] using (Or.inr : v = "b" → v = "a" ∨ v = "b")
  have hgpu : gpu.Alike gpu' := ⟨rfl, rfl, fun v ↦ .rfl⟩
  have hgpu_self : gpu.Alike gpu := ⟨rfl, rfl, fun v ↦ .rfl⟩
  have halike : AllAlike [zone, gpu] [gpu', zone', gpu] := by
    constructor
    · simpa using ⟨.inr (.inl hzone), .inl hgpu⟩
    · simpa using ⟨.inr hgpu.symm, .inl hzone.symm, .inr hgpu_self⟩
  obtain ⟨hagree, _, _, _, _, hopposite, horder, _, _, hmore⟩ := evaluators_agree (n := n) rfl
  have hselector : (LabelSelector.ofRequirements [zone, gpu]).selects n.labels = true := by decide
  have hterm : (NodeSelectorTerm.ofRequirements [zone, gpu]).selects n = true :=
    (hagree _ (by simp) hshared).trans hselector
  have helsewhere : (NodeSelectorTerm.ofRequirements [elsewhere]).selects n = false := by
    rw [(hopposite ("In", "NotIn") (by simp) "zone" (some ["a", "b"])).2]
    decide
  have hfewer := (hmore [elsewhere] [gpu, elsewhere] (by simp) (by simp)).2
  rw [helsewhere] at hfewer
  obtain ⟨hselector', hterm'⟩ := horder _ _ hshared halike
  exact ⟨hshared, halike, hselector' ▸ hselector, hterm' ▸ hterm, helsewhere, by simpa using hfewer⟩

end PodPlacement
