import Mathlib.Data.List.Induction
import Mathlib.Data.List.Nodup
import PodPlacement.Table

/-!
A table that is filled with distinct keys holds exactly the bindings it was filled with, and of
several bindings of one key the last. A walk over a table comes to each of its keys once, and a
table that joins two others has the bindings of both.
-/

namespace PodPlacement.Table

universe u v

variable {α : Type u}

theorem insertEntry_perm {k : String} {a : α} {es : List (String × α)}
    (h : k ∉ es.map (·.1)) : (insertEntry k a es).Perm ((k, a) :: es) := by
  induction es with
  | nil => exact .refl _
  | cons e es ih =>
    simp only [List.map_cons, List.mem_cons, not_or] at h
    simp only [insertEntry]
    split
    · exact .refl _
    · split
      · exact absurd ‹k = e.1› h.1
      · exact ((ih h.2).cons e).trans (.swap _ _ _)

theorem mem_insertEntry {k : String} {a : α} {es : List (String × α)} {e : String × α}
    (h : e ∈ insertEntry k a es) : e = (k, a) ∨ e ∈ es := by
  induction es with
  | nil => simpa [insertEntry] using h
  | cons x xs ih =>
    simp only [insertEntry] at h
    split at h
    · exact List.mem_cons.1 h
    · split at h
      · exact (List.mem_cons.1 h).imp_right (List.mem_cons_of_mem _)
      · rcases List.mem_cons.1 h with rfl | h
        · exact .inr (List.mem_cons_self ..)
        · exact (ih h).imp_right (List.mem_cons_of_mem _)

theorem foldl_insert_perm {es : List (String × α)} {t : Table α} (hnodup : (es.map (·.1)).Nodup)
    (hfresh : ∀ e ∈ es, e.1 ∉ t.keys) :
    (es.foldl (fun t e ↦ t.insert e.1 e.2) t).entries.Perm (es ++ t.entries) := by
  induction es generalizing t with
  | nil => exact .refl _
  | cons e es ih =>
    obtain ⟨hhead, htail⟩ := List.nodup_cons.1 hnodup
    have hins : (t.insert e.1 e.2).entries.Perm (e :: t.entries) :=
      insertEntry_perm (hfresh e (List.mem_cons_self ..))
    have hrest : ∀ f ∈ es, f.1 ∉ (t.insert e.1 e.2).keys := by
      intro f hf hmem
      rcases List.mem_cons.1 ((hins.map (·.1)).mem_iff.1 hmem) with heq | hold
      · exact hhead (heq ▸ List.mem_map_of_mem hf)
      · exact hfresh f (List.mem_cons_of_mem _ hf) hold
    exact (ih htail hrest).trans ((hins.append_left es).trans List.perm_middle)

theorem entries_ofList_perm {es : List (String × α)} (h : (es.map (·.1)).Nodup) :
    (ofList es).entries.Perm es := by
  have hperm := foldl_insert_perm (t := empty) h fun _ _ ↦ List.not_mem_nil
  rwa [empty, List.append_nil] at hperm

theorem values_ofList_perm {es : List (String × α)} (h : (es.map (·.1)).Nodup) :
    (ofList es).values.Perm (es.map (·.2)) := (entries_ofList_perm h).map _

theorem mem_foldl_insert {es : List (String × α)} {t : Table α} {e : String × α}
    (h : e ∈ (es.foldl (fun t e ↦ t.insert e.1 e.2) t).entries) : e ∈ es ∨ e ∈ t.entries := by
  induction es generalizing t with
  | nil => exact .inr h
  | cons x xs ih =>
    rcases ih h with hx | hins
    · exact .inl (List.mem_cons_of_mem _ hx)
    · rcases mem_insertEntry hins with rfl | hold
      · exact .inl (List.mem_cons_self ..)
      · exact .inr hold

theorem mem_of_mem_ofList {es : List (String × α)} {e : String × α}
    (h : e ∈ (ofList es).entries) : e ∈ es := by
  rcases mem_foldl_insert h with hes | hempty
  · exact hes
  · cases hempty

theorem get?_ofList {es : List (String × α)} (hnodup : (es.map (·.1)).Nodup) {k : String} {a : α}
    (h : (k, a) ∈ es) : (ofList es).get? k = some a :=
  get?_eq_some_iff.2 ((entries_ofList_perm hnodup).mem_iff.2 h)

/-- The last binding of a key stays. -/
theorem get?_ofList_last (es : List (String × α)) (k : String) :
    (ofList es).get? k = ((es.filter (·.1 == k)).getLast?).map (·.2) := by
  induction es using List.reverseRecOn with
  | nil => rfl
  | append_singleton es e ih =>
    have hlast : ofList (es ++ [e]) = (ofList es).insert e.1 e.2 := by simp [ofList]
    rw [hlast, get?_insert, ih, List.filter_append]
    by_cases hk : k = e.1
    · simp [hk]
    · simp [hk, Ne.symm hk]

theorem isEmpty_insert (t : Table α) (k : String) (a : α) : (t.insert k a).isEmpty = false := by
  rw [Bool.eq_false_iff]
  intro hempty
  have hget : (t.insert k a).get? k = some a := by rw [get?_insert, if_pos rfl]
  rw [get?_eq_some_iff, List.isEmpty_iff.1 hempty] at hget
  cases hget

theorem keys_nodup (t : Table α) : t.keys.Nodup := by
  rw [keys, List.nodup_iff_pairwise_ne, List.pairwise_map]
  exact t.ascending.imp fun hlt ↦ String.ne_of_lt hlt

theorem mem_keys_iff {t : Table α} {k : String} : k ∈ t.keys ↔ ∃ a, t.get? k = some a := by
  simp [keys, get?_eq_some_iff]

theorem get?_eq_none_iff {t : Table α} {k : String} : t.get? k = none ↔ k ∉ t.keys := by
  simp [mem_keys_iff, Option.eq_none_iff_forall_ne_some]

theorem mem_values_iff {t : Table α} {a : α} : a ∈ t.values ↔ ∃ k, t.get? k = some a := by
  simp [values, get?_eq_some_iff]

theorem eq_keys_of_ascending {t : Table α} {names : List String}
    (hascending : names.Pairwise (· < ·)) (h : ∀ k, k ∈ names ↔ k ∈ t.keys) : names = t.keys := by
  have hkeys : t.keys.Pairwise (· < ·) := List.pairwise_map.2 t.ascending
  have hnodup : names.Nodup := hascending.imp String.ne_of_lt
  apply List.Perm.eq_of_pairwise _ hascending hkeys
  · exact (List.perm_ext_iff_of_nodup hnodup t.keys_nodup).2 h
  · intro a b _ _ hab hba
    exact absurd hba (String.lt_asymm hab)

theorem flatMap_values {β : Type v} (t : Table α) (f : α → List β) :
    t.values.flatMap f = t.keys.flatMap fun k ↦ (t.get? k).elim [] f := by
  rw [values, keys, List.flatMap_map, List.flatMap_map]
  apply List.flatMap_congr
  intro e he
  rw [get?_eq_some_iff.2 he, Option.elim_some]

/-- The bindings of `u` are those of `s` and those of `t`, which share no key. -/
structure Joins (s t u : Table α) : Prop where
  disjoint : ∀ k ∈ s.keys, k ∉ t.keys
  get?_eq : ∀ k, u.get? k = (s.get? k).or (t.get? k)

theorem Joins.entries_perm {s t u : Table α} (h : Joins s t u) :
    u.entries.Perm (s.entries ++ t.entries) := by
  have hnodup (t : Table α) : t.entries.Nodup := t.ascending.imp ne_of_fst_lt
  have hdisjoint : s.entries.Disjoint t.entries := by
    intro e hs ht
    exact h.disjoint e.1 (List.mem_map_of_mem hs) (List.mem_map_of_mem ht)
  refine (List.perm_ext_iff_of_nodup (hnodup u)
    (List.nodup_append'.2 ⟨hnodup s, hnodup t, hdisjoint⟩)).2 fun e ↦ ?_
  rw [List.mem_append, ← get?_eq_some_iff, ← get?_eq_some_iff, ← get?_eq_some_iff, h.get?_eq,
    Option.or_eq_some_iff]
  constructor
  · rintro (hs | ⟨-, ht⟩)
    · exact .inl hs
    · exact .inr ht
  · rintro (hs | ht)
    · exact .inl hs
    · right
      refine ⟨get?_eq_none_iff.2 fun hs ↦ h.disjoint e.1 hs ?_, ht⟩
      exact mem_keys_iff.2 ⟨e.2, ht⟩

theorem Joins.values_perm {s t u : Table α} (h : Joins s t u) :
    u.values.Perm (s.values ++ t.values) := by
  simpa [values] using h.entries_perm.map (·.2)

/-! ### Walking a table -/

section Walk

universe w

variable {β : Type v} {γ : Type w} {step : β → String → α → β} {read : β → γ} {k : String}
  {change : γ → α → γ}

theorem foldl_entries_read {es : List (String × α)} (hkeys : es.Pairwise fun a b ↦ a.1 < b.1)
    (hkey : ∀ b a, read (step b k a) = change (read b) a)
    (hother : ∀ b k' a, k ≠ k' → read (step b k' a) = read b) (b : β) :
    read (es.foldl (fun b e ↦ step b e.1 e.2) b) =
      (es.lookup k).elim (read b) (change (read b)) := by
  induction es generalizing b with
  | nil => rfl
  | cons e es ih =>
    obtain ⟨habove, hkeys⟩ := List.pairwise_cons.1 hkeys
    rw [List.foldl_cons, ih hkeys, lookup_cons_ite]
    by_cases h : k = e.1
    · have habsent : es.lookup k = none := lookup_eq_none_of_lt fun e' he' ↦ h ▸ habove e' he'
      rw [habsent, if_pos h, ← h]
      exact hkey b e.2
    · rw [if_neg h, hother b e.1 e.2 h]

/-- What is kept for one key changes once on a walk, when that key comes, or not at all. -/
theorem foldl_read (t : Table α) (k : String) (read : β → γ) (change : γ → α → γ)
    (hkey : ∀ b a, read (step b k a) = change (read b) a)
    (hother : ∀ b k' a, k ≠ k' → read (step b k' a) = read b) (b : β) :
    read (t.foldl step b) = (t.get? k).elim (read b) (change (read b)) :=
  foldl_entries_read t.ascending hkey hother b

end Walk

end PodPlacement.Table
