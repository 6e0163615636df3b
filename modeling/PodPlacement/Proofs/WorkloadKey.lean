import Mathlib.Data.List.DropRight
import PodPlacement.WorkloadKey

/-!
Keys as text. Where no part of a key has a slash of its own, the text tells which key it is, and
such keys are all that can be read.
-/

namespace PodPlacement.WorkloadKey

structure SlashFree (k : WorkloadKey) : Prop where
  space : '/' ∉ k.space.toList
  name : '/' ∉ k.name.toList

theorem not_mem_of_mem_splitOn {part xs : List Char} (h : part ∈ xs.splitOn '/') : '/' ∉ part := by
  induction xs generalizing part with
  | nil => simp_all
  | cons c xs ih =>
    rw [List.splitOn_cons_eq_if_modifyHead] at h
    split at h
    · rcases List.mem_cons.1 h with rfl | h
      · exact List.not_mem_nil
      · exact ih h
    · next hc =>
      cases hparts : xs.splitOn '/' with
      | nil => simp [hparts] at h
      | cons first rest =>
        rw [hparts] at h ih
        rcases List.mem_cons.1 h with rfl | h
        · intro hmem
          rcases List.mem_cons.1 hmem with rfl | hmem
          · exact hc (beq_self_eq_true '/')
          · exact ih (List.mem_cons_self ..) hmem
        · exact ih (List.mem_cons_of_mem _ h)

theorem toList_joined (space name : String) :
    (space ++ "/" ++ name).toList = space.toList ++ '/' :: name.toList := by simp

theorem splitOn_joined {space name : String} (hspace : '/' ∉ space.toList)
    (hname : '/' ∉ name.toList) :
    (space ++ "/" ++ name).toList.splitOn '/' = [space.toList, name.toList] := by
  rw [toList_joined, List.splitOn_append_cons_self_of_not_mem hspace,
    List.splitOn_eq_singleton hname]

theorem SlashFree.splitOn_text {k : WorkloadKey} (h : k.SlashFree) :
    k.text.toList.splitOn '/' =
      if k.space = "" then [k.name.toList] else [k.space.toList, k.name.toList] := by
  by_cases hspace : k.space = ""
  · simp [text, hspace, List.splitOn_eq_singleton h.name]
  · have htext : k.text = k.space ++ "/" ++ k.name := by simp [text, hspace]
    rw [htext, splitOn_joined h.space h.name, if_neg hspace]

theorem SlashFree.text_injective {k k' : WorkloadKey} (h : k.SlashFree) (h' : k'.SlashFree)
    (heq : k.text = k'.text) : k = k' := by
  obtain ⟨space, name⟩ := k
  obtain ⟨space', name'⟩ := k'
  have hparts := h.splitOn_text
  rw [heq, h'.splitOn_text] at hparts
  by_cases hspace : space = "" <;> by_cases hspace' : space' = "" <;>
    simp_all [String.toList_inj]

theorem slashFree_of_parse {s : String} {k : WorkloadKey} (h : parse s = .ok k) : k.SlashFree := by
  unfold parse at h
  split at h
  · next c name hparts =>
    cases h
    have hname : '/' ∉ c :: name := not_mem_of_mem_splitOn (hparts ▸ List.mem_cons_self ..)
    exact ⟨by simp, by simpa using hname⟩
  · next space c name hparts =>
    cases h
    have hspace : '/' ∉ space := not_mem_of_mem_splitOn (hparts ▸ List.mem_cons_self ..)
    have hname : '/' ∉ c :: name :=
      not_mem_of_mem_splitOn (hparts ▸ List.mem_cons_of_mem _ (List.mem_cons_self ..))
    exact ⟨by simpa using hspace, by simpa using hname⟩
  · cases h

/-! ### What can be read -/

/-- How keys are spelled: a name alone, or a slash between namespace and name. Even where there is a
slash the namespace may be empty, the name may not. -/
inductive Spells : String → WorkloadKey → Prop
  | alone {name : String} : '/' ∉ name.toList → name ≠ "" → Spells name ⟨"", name⟩
  | within {space name : String} : '/' ∉ space.toList → '/' ∉ name.toList → name ≠ "" →
      Spells (space ++ "/" ++ name) ⟨space, name⟩

variable {s : String} {k : WorkloadKey}

theorem toList_of_splitOn {xs : List Char} {parts : List (List Char)} (h : xs.splitOn '/' = parts) :
    xs = ['/'].intercalate parts := by
  rw [← h, List.intercalate_splitOn]

theorem exists_toList_eq_cons {name : String} (h : name ≠ "") : ∃ c cs, name.toList = c :: cs := by
  refine List.exists_cons_of_ne_nil fun hnil ↦ h ?_
  rw [← String.ofList_toList (s := name), hnil]

theorem parse_of_spells (h : Spells s k) : parse s = .ok k := by
  unfold parse
  cases h with
  | alone hslash hne =>
    obtain ⟨c, cs, hcs⟩ := exists_toList_eq_cons hne
    rw [List.splitOn_eq_singleton hslash, hcs]
    dsimp only
    rw [← hcs, String.ofList_toList]
  | @within space name hspace hslash hne =>
    obtain ⟨c, cs, hcs⟩ := exists_toList_eq_cons hne
    have hkey : WorkloadKey.mk (String.ofList space.toList) (String.ofList (c :: cs)) =
        ⟨space, name⟩ := by
      rw [← hcs, String.ofList_toList, String.ofList_toList]
    rw [splitOn_joined hspace hslash, hcs, ← hkey]
    cases space.toList <;> rfl

theorem spells_of_parse (h : parse s = .ok k) : Spells s k := by
  have hfree := slashFree_of_parse h
  unfold parse at h
  split at h
  · next c name hparts =>
    cases h
    have hs : s = String.ofList (c :: name) := by
      rw [← String.ofList_toList (s := s), toList_of_splitOn hparts]
      simp
    rw [hs]
    exact .alone hfree.name (by simp)
  · next space c name hparts =>
    cases h
    have hs : s = String.ofList space ++ "/" ++ String.ofList (c :: name) := by
      rw [← String.ofList_toList (s := s), toList_of_splitOn hparts]
      simp [← String.toList_inj]
    rw [hs]
    exact .within hfree.space hfree.name (by simp)
  · cases h

theorem parse_eq_ok_iff : parse s = .ok k ↔ Spells s k := ⟨spells_of_parse, parse_of_spells⟩

theorem Spells.name_ne (h : Spells s k) : k.name ≠ "" := by
  cases h with
  | alone _ hne => exact hne
  | within _ _ hne => exact hne

theorem SlashFree.spells_text (h : k.SlashFree) (hne : k.name ≠ "") : Spells k.text k := by
  obtain ⟨space, name⟩ := k
  by_cases hspace : space = ""
  · subst hspace
    exact .alone h.name hne
  · have htext : text ⟨space, name⟩ = space ++ "/" ++ name := by simp [text, hspace]
    rw [htext]
    exact .within h.space h.name hne

/-- A key with a name is read back from its text. -/
theorem SlashFree.parse_text (h : k.SlashFree) (hne : k.name ≠ "") : parse k.text = .ok k :=
  parse_of_spells (h.spells_text hne)

theorem parse_text_of_parse (h : parse s = .ok k) : parse k.text = .ok k :=
  (slashFree_of_parse h).parse_text (spells_of_parse h).name_ne

def lastPart (s : String) : List Char := s.toList.rtakeWhile (· != '/')

theorem lastPart_alone (h : '/' ∉ s.toList) : lastPart s = s.toList := by
  rw [lastPart, List.rtakeWhile_eq_self_iff]
  intro c hc
  rw [bne_iff_ne]
  rintro rfl
  exact h hc

theorem rtakeWhile_within (before : List Char) {after : List Char} (h : '/' ∉ after) :
    (before ++ '/' :: after).rtakeWhile (· != '/') = after := by
  have hall : ∀ c ∈ after.reverse, (c != '/') = true := by
    intro c hc
    rw [bne_iff_ne]
    rintro rfl
    exact h (List.mem_reverse.1 hc)
  rw [List.rtakeWhile, List.reverse_append, List.reverse_cons, List.append_assoc,
    List.takeWhile_append_of_pos hall, List.singleton_append,
    List.takeWhile_cons_of_neg (by decide), List.append_nil, List.reverse_reverse]

/-- A text is a key exactly if it has one slash at most and something after it, or something at all
where it has none. -/
theorem exists_parse_iff :
    (∃ k, parse s = .ok k) ↔ s.toList.count '/' ≤ 1 ∧ lastPart s ≠ [] := by
  constructor
  · rintro ⟨k, h⟩
    cases spells_of_parse h with
    | alone hslash hne =>
      obtain ⟨c, cs, hcs⟩ := exists_toList_eq_cons hne
      rw [List.count_eq_zero.2 hslash, lastPart_alone hslash, hcs]
      exact ⟨Nat.zero_le _, nofun⟩
    | @within space name hspace hslash hne =>
      obtain ⟨c, cs, hcs⟩ := exists_toList_eq_cons hne
      rw [lastPart, toList_joined, rtakeWhile_within _ hslash, List.count_append,
        List.count_cons_self, List.count_eq_zero.2 hspace, List.count_eq_zero.2 hslash, hcs]
      exact ⟨Nat.le_refl _, nofun⟩
  · rintro ⟨hcount, hlast⟩
    by_cases hmem : '/' ∈ s.toList
    · obtain ⟨space, name, hsplit⟩ := List.append_of_mem hmem
      rw [hsplit, List.count_append, List.count_cons_self] at hcount
      have hspace : '/' ∉ space := List.count_eq_zero.1 (by omega)
      have hname : '/' ∉ name := List.count_eq_zero.1 (by omega)
      rw [lastPart, hsplit, rtakeWhile_within _ hname] at hlast
      have hs : s = String.ofList space ++ "/" ++ String.ofList name := by
        rw [← String.ofList_toList (s := s), hsplit]
        simp [← String.toList_inj]
      refine ⟨_, hs ▸ parse_of_spells (.within (by simpa) (by simpa) ?_)⟩
      simpa using hlast
    · rw [lastPart_alone hmem] at hlast
      refine ⟨_, parse_of_spells (.alone hmem ?_)⟩
      rintro rfl
      exact hlast rfl

end PodPlacement.WorkloadKey
