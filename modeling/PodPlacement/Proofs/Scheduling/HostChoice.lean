import PodPlacement.Scheduling.HostChoice

/-!
The host that is chosen is one of the best scored ones, whatever the draw.
-/

namespace PodPlacement

variable {γ : Type}

theorem mem_byScoreDescending {scores : List NodeScore} {e : NodeScore} :
    e ∈ byScoreDescending scores ↔ e ∈ scores := List.mem_mergeSort

theorem descending_trans (a b c : NodeScore) (hab : decide (b.score ≤ a.score) = true)
    (hbc : decide (c.score ≤ b.score) = true) : decide (c.score ≤ a.score) = true :=
  decide_eq_true (Int.le_trans (of_decide_eq_true hbc) (of_decide_eq_true hab))

theorem descending_total (a b : NodeScore) :
    (decide (b.score ≤ a.score) || decide (a.score ≤ b.score)) = true := by
  simp only [Bool.or_eq_true, decide_eq_true_eq]
  exact Int.le_total _ _

theorem byScoreDescending_pairwise (scores : List NodeScore) :
    (byScoreDescending scores).Pairwise fun a b ↦ b.score ≤ a.score :=
  (List.pairwise_mergeSort descending_trans descending_total scores).imp of_decide_eq_true

theorem leaders_ne_nil {scores : List NodeScore} (h : scores ≠ []) : leaders scores ≠ [] := by
  unfold leaders
  cases hs : byScoreDescending scores with
  | nil =>
    obtain ⟨e, he⟩ := List.exists_mem_of_ne_nil scores h
    have := mem_byScoreDescending.2 he
    simp [hs] at this
  | cons top rest => simp

theorem leader_is_best {scores : List NodeScore} {e : NodeScore} (h : e ∈ leaders scores) :
    e ∈ scores ∧ ∀ f ∈ scores, f.score ≤ e.score := by
  unfold leaders at h
  cases hs : byScoreDescending scores with
  | nil => simp [hs] at h
  | cons top rest =>
    simp only [hs] at h
    have hsorted := byScoreDescending_pairwise scores
    rw [hs] at hsorted
    have htop : ∀ f ∈ scores, f.score ≤ top.score := by
      intro f hf
      have hmem := mem_byScoreDescending.2 hf
      rw [hs] at hmem
      rcases List.mem_cons.1 hmem with rfl | hrest
      · exact Int.le_refl _
      · exact List.rel_of_pairwise_cons hsorted hrest
    have hlead : e ∈ top :: rest ∧ e.score = top.score := by
      rcases List.mem_cons.1 h with rfl | htie
      · exact ⟨List.mem_cons_self .., rfl⟩
      · have htied := List.all_eq_true.1 (List.all_takeWhile (l := rest)) e htie
        exact ⟨List.mem_cons_of_mem _ ((List.takeWhile_sublist _).mem htie), eq_of_beq htied⟩
    refine ⟨mem_byScoreDescending.1 (hs ▸ hlead.1), fun f hf ↦ ?_⟩
    rw [hlead.2]
    exact htop f hf

/-- A draw that stays below its bound always settles on a leader. -/
theorem selectHost_eq_leader {draw : γ → Nat → Nat × γ}
    (hdraw : ∀ g n, 0 < n → (draw g n).1 < n) (g : γ) {scores : List NodeScore}
    (h : scores ≠ []) :
    ∃ e ∈ leaders scores, (selectHost draw g scores).1 = some e.name := by
  have hne := leaders_ne_nil h
  unfold selectHost
  split
  · contradiction
  · next only hl => exact ⟨only, by simp [hl], rfl⟩
  · next several _ hl =>
    have hlt := hdraw g (leaders scores).length (List.length_pos_iff.2 hne)
    rcases hd : draw g (leaders scores).length with ⟨k, g'⟩
    rw [hd] at hlt
    dsimp only
    refine ⟨(leaders scores)[k], List.getElem_mem hlt, ?_⟩
    rw [List.getElem?_eq_getElem hlt, Option.map_some]

theorem selectHost_best {draw : γ → Nat → Nat × γ}
    (hdraw : ∀ g n, 0 < n → (draw g n).1 < n) (g : γ) {scores : List NodeScore}
    (h : scores ≠ []) :
    ∃ e ∈ scores, (∀ f ∈ scores, f.score ≤ e.score) ∧
      (selectHost draw g scores).1 = some e.name := by
  obtain ⟨e, he, hsel⟩ := selectHost_eq_leader hdraw g h
  obtain ⟨hmem, hbest⟩ := leader_is_best he
  exact ⟨e, hmem, hbest, hsel⟩

end PodPlacement
