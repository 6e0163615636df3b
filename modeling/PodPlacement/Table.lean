/-!
Finite maps keyed by text, held as a list in ascending order of keys. Two tables with the same
bindings are equal (`Table.ext_get?`), so a state made of tables is compared by plain equality,
and walking a table walks its keys in order.
-/

namespace PodPlacement

universe u v

/-- Keys are distinct and ascend by code points. -/
structure Table (α : Type u) where
  entries : List (String × α)
  ascending : entries.Pairwise (fun a b ↦ a.1 < b.1)
deriving DecidableEq, Repr

namespace Table

variable {α : Type u} {β : Type v}

def empty : Table α := ⟨[], .nil⟩

instance : EmptyCollection (Table α) := ⟨empty⟩

instance : Inhabited (Table α) := ⟨empty⟩

def isEmpty (t : Table α) : Bool := t.entries.isEmpty

def size (t : Table α) : Nat := t.entries.length

def keys (t : Table α) : List String := t.entries.map (·.1)

def values (t : Table α) : List α := t.entries.map (·.2)

def get? (t : Table α) (k : String) : Option α := t.entries.lookup k

def getD (t : Table α) (k : String) (fallback : α) : α := (t.get? k).getD fallback

def contains (t : Table α) (k : String) : Bool := (t.get? k).isSome

/-! ### Writing -/

def insertEntry (k : String) (a : α) : List (String × α) → List (String × α)
  | [] => [(k, a)]
  | e :: es =>
    if k < e.1 then (k, a) :: e :: es
    else if k = e.1 then (k, a) :: es
    else e :: insertEntry k a es

theorem fst_mem_insertEntry {k : String} {a : α} {es : List (String × α)} {e : String × α}
    (h : e ∈ insertEntry k a es) : e.1 = k ∨ e ∈ es := by
  induction es with
  | nil => simp_all [insertEntry]
  | cons x xs ih =>
    simp only [insertEntry] at h
    split at h
    · rcases List.mem_cons.1 h with rfl | h
      · exact .inl rfl
      · exact .inr h
    · split at h
      · rcases List.mem_cons.1 h with rfl | h
        · exact .inl rfl
        · exact .inr (List.mem_cons_of_mem _ h)
      · rcases List.mem_cons.1 h with rfl | h
        · exact .inr (List.mem_cons_self ..)
        · exact (ih h).imp_right (List.mem_cons_of_mem _)

theorem insertEntry_ascending {k : String} {a : α} {es : List (String × α)}
    (h : es.Pairwise (fun a b ↦ a.1 < b.1)) :
    (insertEntry k a es).Pairwise (fun a b ↦ a.1 < b.1) := by
  induction es with
  | nil => simp [insertEntry]
  | cons x xs ih =>
    obtain ⟨hx, hxs⟩ := List.pairwise_cons.1 h
    simp only [insertEntry]
    split
    · next hk =>
      refine List.pairwise_cons.2 ⟨fun e he ↦ ?_, h⟩
      rcases List.mem_cons.1 he with rfl | he
      · exact hk
      · exact String.lt_trans hk (hx e he)
    · split
      · next hk => exact List.pairwise_cons.2 ⟨fun e he ↦ hk ▸ hx e he, hxs⟩
      · next hlt hne =>
        refine List.pairwise_cons.2 ⟨fun e he ↦ ?_, ih hxs⟩
        rcases fst_mem_insertEntry he with rfl | he
        · exact Std.lt_of_le_of_ne hlt fun h ↦ hne h.symm
        · exact hx e he

def insert (t : Table α) (k : String) (a : α) : Table α :=
  ⟨insertEntry k a t.entries, insertEntry_ascending t.ascending⟩

def filter (t : Table α) (p : String → α → Bool) : Table α :=
  ⟨t.entries.filter (fun e ↦ p e.1 e.2), t.ascending.filter _⟩

def erase (t : Table α) (k : String) : Table α := t.filter fun k' _ ↦ k' != k

def map (t : Table α) (f : String → α → β) : Table β :=
  ⟨t.entries.map fun e ↦ (e.1, f e.1 e.2), by
    rw [List.pairwise_map]
    exact t.ascending⟩

/-- Binds in order, so the last binding of a key stays. -/
def ofList (es : List (String × α)) : Table α := es.foldl (fun t e ↦ t.insert e.1 e.2) ∅

def adjust (t : Table α) (k : String) (f : Option α → α) : Table α := t.insert k (f (t.get? k))

def foldl (t : Table α) (f : β → String → α → β) (init : β) : β :=
  t.entries.foldl (fun b e ↦ f b e.1 e.2) init

/-! ### Lookups after a write -/

theorem lookup_cons_ite (k : String) (e : String × α) (es : List (String × α)) :
    (e :: es).lookup k = if k = e.1 then some e.2 else es.lookup k := by
  obtain ⟨k', a⟩ := e
  rw [List.lookup_cons]
  by_cases hk : k = k'
  · simp [hk]
  · rw [beq_eq_false_iff_ne.2 hk, if_neg hk]

theorem lookup_eq_none_of_lt {k : String} {es : List (String × α)} (h : ∀ e ∈ es, k < e.1) :
    es.lookup k = none := by
  induction es with
  | nil => rfl
  | cons x xs ih =>
    have hx : k ≠ x.1 := fun hk ↦ String.lt_irrefl x.1 (hk ▸ h x (List.mem_cons_self ..))
    rw [lookup_cons_ite, if_neg hx]
    exact ih fun e he ↦ h e (List.mem_cons_of_mem _ he)

theorem lookup_insertEntry (k k' : String) (a : α) {es : List (String × α)}
    (h : es.Pairwise (fun a b ↦ a.1 < b.1)) :
    (insertEntry k a es).lookup k' = if k' = k then some a else es.lookup k' := by
  induction es with
  | nil => simp [insertEntry, lookup_cons_ite]
  | cons x xs ih =>
    obtain ⟨hx, hxs⟩ := List.pairwise_cons.1 h
    simp only [insertEntry]
    split
    · rw [lookup_cons_ite]
    · split
      · next hk => subst hk; by_cases hk' : k' = x.1 <;> simp [lookup_cons_ite, hk']
      · next hne =>
        rw [lookup_cons_ite, lookup_cons_ite, ih hxs]
        by_cases hx' : k' = x.1
        · have : k' ≠ k := fun h ↦ hne (h ▸ hx')
          rw [if_pos hx', if_neg this, if_pos hx']
        · simp [hx']

theorem lookup_filter {k : String} {p : String → α → Bool} {es : List (String × α)}
    (h : es.Pairwise (fun a b ↦ a.1 < b.1)) :
    (es.filter fun e ↦ p e.1 e.2).lookup k = (es.lookup k).filter (p k) := by
  induction es with
  | nil => rfl
  | cons x xs ih =>
    obtain ⟨hx, hxs⟩ := List.pairwise_cons.1 h
    rw [lookup_cons_ite]
    by_cases hp : p x.1 x.2 = true
    · rw [List.filter_cons_of_pos (by simpa using hp), lookup_cons_ite]
      by_cases hk : k = x.1
      · subst hk
        simp [Option.filter, hp]
      · simp [hk, ih hxs]
    · rw [List.filter_cons_of_neg (by simpa using hp), ih hxs]
      by_cases hk : k = x.1
      · have : (xs.lookup x.1) = none := lookup_eq_none_of_lt hx
        subst hk
        simp [Option.filter, hp, this]
      · simp [hk]

theorem lookup_map (f : String → α → β) (k : String) (es : List (String × α)) :
    (es.map fun e ↦ (e.1, f e.1 e.2)).lookup k = (es.lookup k).map (f k) := by
  induction es with
  | nil => rfl
  | cons x xs ih =>
    rw [List.map_cons, lookup_cons_ite, lookup_cons_ite]
    by_cases hk : k = x.1
    · simp [hk]
    · simp [hk, ih]

@[simp]
theorem get?_empty (k : String) : (∅ : Table α).get? k = none := rfl

@[simp]
theorem get?_insert (t : Table α) (k k' : String) (a : α) :
    (t.insert k a).get? k' = if k' = k then some a else t.get? k' :=
  lookup_insertEntry k k' a t.ascending

@[simp]
theorem get?_filter (t : Table α) (p : String → α → Bool) (k : String) :
    (t.filter p).get? k = (t.get? k).filter (p k) := lookup_filter t.ascending

@[simp]
theorem get?_erase (t : Table α) (k k' : String) :
    (t.erase k).get? k' = if k' = k then none else t.get? k' := by
  rw [erase, get?_filter]
  by_cases h : k' = k <;> cases t.get? k' <;> simp [h, Option.filter]

theorem lookup_eq_some_iff {k : String} {a : α} {es : List (String × α)}
    (h : es.Pairwise (fun a b ↦ a.1 < b.1)) : es.lookup k = some a ↔ (k, a) ∈ es := by
  induction es with
  | nil => simp
  | cons x xs ih =>
    obtain ⟨hx, hxs⟩ := List.pairwise_cons.1 h
    rw [lookup_cons_ite, List.mem_cons]
    by_cases hk : k = x.1
    · have hn : (k, a) ∉ xs := fun ha ↦ String.lt_irrefl x.1 (by simpa [hk] using hx _ ha)
      simp [hk, Prod.ext_iff, eq_comm, hk ▸ hn]
    · simp [hk, ih hxs, Prod.ext_iff]

theorem get?_eq_some_iff {t : Table α} {k : String} {a : α} :
    t.get? k = some a ↔ (k, a) ∈ t.entries := lookup_eq_some_iff t.ascending

theorem ne_of_fst_lt {a b : String × α} (h : a.1 < b.1) : a ≠ b := by
  rintro rfl
  exact String.lt_irrefl _ h

theorem ext_get? {s t : Table α} (h : ∀ k, s.get? k = t.get? k) : s = t := by
  have hmem : ∀ e, e ∈ s.entries ↔ e ∈ t.entries := fun e ↦ by
    rw [← get?_eq_some_iff, ← get?_eq_some_iff, h]
  have hperm : s.entries.Perm t.entries := by
    refine (List.perm_ext_iff_of_nodup ?_ ?_).2 hmem
    · exact s.ascending.imp fun hlt ↦ ne_of_fst_lt hlt
    · exact t.ascending.imp fun hlt ↦ ne_of_fst_lt hlt
  have heq : s.entries = t.entries :=
    hperm.eq_of_pairwise (fun a b _ _ hab hba ↦ absurd hba (String.lt_asymm hab))
      s.ascending t.ascending
  cases s
  cases t
  cases heq
  rfl

end Table

end PodPlacement
