import Mathlib.Probability.Distributions.Uniform
import PodPlacement.Proofs.Scheduling.HostChoice

/-!
Ties between hosts. The draw is among the hosts with the highest score in their order, one draw for
each of them, so that one that is uniform prefers none.
-/

namespace PodPlacement

/-! ### Places in a list that is filtered -/

section Places

variable {α : Type} {p : α → Bool} {xs : List α} {a b : α} {i j d : Nat}

theorem getElem?_filter_eq_some_iff : (xs.filter p)[d]? = some a ↔
    ∃ i, xs[i]? = some a ∧ p a = true ∧ (xs.take i).countP p = d := by
  induction xs generalizing d with
  | nil => simp
  | cons x xs ih =>
    -- The entry is the head or stands at the successor of a place in the tail.
    rw [← Nat.or_exists_add_one]
    by_cases hx : p x = true
    · cases d with
      | zero => grind
      | succ d => simp [hx, ih]
    · have hhead : x = a → p a = false := by
        rintro rfl
        simpa using hx
      simp only [hx, List.filter_cons, List.getElem?_cons_zero, List.getElem?_cons_succ]
      grind

theorem countP_take_lt (ha : xs[i]? = some a) (hp : p a = true) (h : i < j) :
    (xs.take i).countP p < (xs.take j).countP p := by
  have hnext : (xs.take (i + 1)).countP p = (xs.take i).countP p + 1 := by
    rw [List.take_add_one, ha, List.countP_append]
    simp [hp]
  have hle : (xs.take (i + 1)).countP p ≤ (xs.take j).countP p :=
    (List.take_sublist_take_left h).countP_le
  omega

theorem takeWhile_eq_filter (h : xs.Pairwise fun a b ↦ p b = true → p a = true) :
    xs.takeWhile p = xs.filter p := by
  induction xs with
  | nil => rfl
  | cons x xs ih =>
    obtain ⟨hx, hxs⟩ := List.pairwise_cons.1 h
    by_cases hp : p x = true
    · rw [List.takeWhile_cons_of_pos hp, List.filter_cons_of_pos hp, ih hxs]
    · have hnone : xs.filter p = [] := List.filter_eq_nil_iff.2 fun b hb ↦ mt (hx b hb) hp
      rw [List.takeWhile_cons_of_neg hp, List.filter_cons_of_neg hp, hnone]

end Places

/-! ### The leaders in their order -/

def IsBest (scores : List NodeScore) (e : NodeScore) : Prop := ∀ f ∈ scores, f.score ≤ e.score

instance (scores : List NodeScore) : DecidablePred (IsBest scores) :=
  fun e ↦ inferInstanceAs (Decidable (∀ f ∈ scores, f.score ≤ e.score))

def bestCount (scores : List NodeScore) : Nat := scores.countP (IsBest scores ·)

/-- `e` stands at place `i`, has the highest score, and `d` others that have it stand before. -/
structure IsLeader (scores : List NodeScore) (d i : Nat) (e : NodeScore) : Prop where
  place : scores[i]? = some e
  best : IsBest scores e
  before : (scores.take i).countP (IsBest scores ·) = d

variable {scores : List NodeScore} {e f : NodeScore} {d i j : Nat}

theorem filter_byScoreDescending :
    (byScoreDescending scores).filter (IsBest scores ·) = scores.filter (IsBest scores ·) := by
  -- Best entries are in descending order as they stand, so a stable sort keeps their order.
  have hordered : (scores.filter (IsBest scores ·)).Pairwise
      fun a b ↦ decide (b.score ≤ a.score) = true := by
    refine List.pairwise_of_forall_mem_list fun a ha b hb ↦ ?_
    have hbest : IsBest scores a := by simpa using List.of_mem_filter ha
    exact decide_eq_true (hbest b (List.mem_of_mem_filter hb))
  have hsub : (scores.filter (IsBest scores ·)).Sublist (byScoreDescending scores) :=
    List.sublist_mergeSort descending_trans descending_total hordered List.filter_sublist
  have hfiltered := hsub.filter (IsBest scores ·)
  rw [List.filter_filter] at hfiltered
  simp only [Bool.and_self] at hfiltered
  have hperm : (byScoreDescending scores).Perm scores := List.mergeSort_perm ..
  exact (hfiltered.eq_of_length (hperm.filter _).length_eq.symm).symm

theorem leaders_eq_filter : leaders scores = scores.filter (IsBest scores ·) := by
  rw [← filter_byScoreDescending]
  unfold leaders
  cases hs : byScoreDescending scores with
  | nil => rfl
  | cons top rest =>
    have hsorted := byScoreDescending_pairwise scores
    rw [hs] at hsorted
    obtain ⟨htop, hrest⟩ := List.pairwise_cons.1 hsorted
    have hbest : IsBest scores top := (leader_is_best (by simp [leaders, hs])).2
    have hiff (f : NodeScore) (hf : f ∈ rest) :
        (f.score == top.score) = decide (IsBest scores f) := by
      have hmem : top ∈ scores := mem_byScoreDescending.1 (hs ▸ List.mem_cons_self ..)
      rw [Bool.eq_iff_iff, beq_iff_eq, decide_eq_true_iff]
      refine ⟨fun heq g hg ↦ heq ▸ hbest g hg, fun h ↦ Int.le_antisymm (htop f hf) (h top hmem)⟩
    have hties : rest.Pairwise fun a b ↦
        (b.score == top.score) = true → (a.score == top.score) = true :=
      hrest.imp_of_mem fun {a b} ha _ hab hb ↦ by
        have := htop a ha
        rw [beq_iff_eq] at *
        omega
    rw [List.filter_cons_of_pos (p := (IsBest scores ·)) (decide_eq_true hbest)]
    exact congrArg (top :: ·) ((takeWhile_eq_filter hties).trans (List.filter_congr hiff))

theorem length_leaders : (leaders scores).length = bestCount scores := by
  rw [leaders_eq_filter, bestCount, List.countP_eq_length_filter]

theorem leaders_getElem?_eq_some_iff :
    (leaders scores)[d]? = some e ↔ ∃ i, IsLeader scores d i e := by
  rw [leaders_eq_filter, getElem?_filter_eq_some_iff]
  simp only [decide_eq_true_iff]
  exact exists_congr fun i ↦
    ⟨fun ⟨hplace, hbest, hbefore⟩ ↦ ⟨hplace, hbest, hbefore⟩, fun h ↦ ⟨h.place, h.best, h.before⟩⟩

theorem bestCount_pos (h : scores ≠ []) : 0 < bestCount scores := by
  rw [← length_leaders]
  exact List.length_pos_iff.2 (leaders_ne_nil h)

namespace IsLeader

theorem lt (h : IsLeader scores d i e) : d < bestCount scores := by
  rw [← length_leaders]
  exact (List.getElem?_eq_some_iff.1 (leaders_getElem?_eq_some_iff.2 ⟨i, h⟩)).1

theorem before_lt (h : IsLeader scores d i e) (hlt : i < j) :
    (scores.take i).countP (IsBest scores ·) < (scores.take j).countP (IsBest scores ·) :=
  countP_take_lt (p := (IsBest scores ·)) h.place (decide_eq_true h.best) hlt

theorem place_unique (hi : IsLeader scores d i e) (hj : IsLeader scores d j f) : i = j := by
  rcases Nat.lt_trichotomy i j with hlt | heq | hlt
  · exact absurd (hi.before.trans hj.before.symm) (hi.before_lt hlt).ne
  · exact heq
  · exact absurd (hj.before.trans hi.before.symm) (hj.before_lt hlt).ne

theorem entry_unique (hi : IsLeader scores d i e) (hj : IsLeader scores d j f) : e = f := by
  have hplace := hi.place
  rw [hi.place_unique hj, hj.place] at hplace
  exact (Option.some.inj hplace).symm

end IsLeader

theorem exists_isLeader (h : d < bestCount scores) : ∃ i e, IsLeader scores d i e := by
  rw [← length_leaders] at h
  obtain ⟨i, hi⟩ := leaders_getElem?_eq_some_iff.1 (List.getElem?_eq_getElem h)
  exact ⟨i, _, hi⟩

/-! ### The choice -/

variable {γ : Type} {draw : γ → Nat → Nat × γ}

theorem selectHost_of_bestCount_eq_one (h : bestCount scores = 1) :
    ∃ i e, IsLeader scores 0 i e ∧
      ∀ (draw : γ → Nat → Nat × γ) (g : γ), selectHost draw g scores = (some e.name, g) := by
  obtain ⟨e, he⟩ := List.length_eq_one_iff.1 (length_leaders.trans h)
  have hzero : (leaders scores)[0]? = some e := by rw [he]; rfl
  obtain ⟨i, hi⟩ := leaders_getElem?_eq_some_iff.1 hzero
  exact ⟨i, e, hi, fun draw g ↦ by rw [selectHost, he]⟩

theorem selectHost_of_two_le (hdraw : ∀ g n, 0 < n → (draw g n).1 < n)
    (h : 2 ≤ bestCount scores) (g : γ) :
    ∃ i e, IsLeader scores (draw g (bestCount scores)).1 i e ∧
      selectHost draw g scores = (some e.name, (draw g (bestCount scores)).2) := by
  obtain ⟨i, e, he⟩ := exists_isLeader (hdraw g (bestCount scores) (by omega))
  refine ⟨i, e, he, ?_⟩
  have hget := leaders_getElem?_eq_some_iff.2 ⟨i, he⟩
  rw [← length_leaders] at hget h ⊢
  unfold selectHost
  split
  · next hl => simp [hl] at h
  · next hl => simp [hl] at h
  · dsimp only
    rw [hget, Option.map_some]

/-- The leader with the number that is drawn is chosen, also where there is but one. -/
theorem selectHost_fst (hdraw : ∀ g n, 0 < n → (draw g n).1 < n) (h : scores ≠ []) (g : γ) :
    (selectHost draw g scores).1 =
      ((leaders scores)[(draw g (bestCount scores)).1]?).map (·.name) := by
  by_cases hone : bestCount scores = 1
  · obtain ⟨i, e, he, hsel⟩ := selectHost_of_bestCount_eq_one hone
    have hzero : (draw g 1).1 = 0 := Nat.lt_one_iff.1 (hdraw g 1 Nat.one_pos)
    rw [hsel, hone, hzero, leaders_getElem?_eq_some_iff.2 ⟨i, he⟩, Option.map_some]
  · have hpos := bestCount_pos h
    have htwo : 2 ≤ bestCount scores := by omega
    obtain ⟨i, e, he, hsel⟩ := selectHost_of_two_le hdraw htwo g
    rw [hsel, leaders_getElem?_eq_some_iff.2 ⟨i, he⟩, Option.map_some]

theorem selectHost_fst_eq_none_iff (hdraw : ∀ g n, 0 < n → (draw g n).1 < n) {g : γ} :
    (selectHost draw g scores).1 = none ↔ scores = [] := by
  constructor
  · intro hnone
    by_contra h
    obtain ⟨e, -, hsel⟩ := selectHost_eq_leader hdraw g h
    simp [hnone] at hsel
  · rintro rfl
    simp [selectHost, leaders, byScoreDescending]

/-! ### Draws that are uniform -/

open scoped ENNReal

theorem card_filter_range_getElem? {α : Type} (p : α → Bool) (xs : List α) :
    ((Finset.range xs.length).filter fun d ↦ (xs[d]?).any p).card = xs.countP p := by
  induction xs with
  | nil => rfl
  | cons x xs ih =>
    rw [Finset.card_filter, List.length_cons, Finset.sum_range_succ', List.countP_cons, ← ih,
      Finset.card_filter]
    simp

variable {μ : PMF γ} {pick : γ → Nat}

theorem toOuterMeasure_of_uniform {k : Nat} {hk : (Finset.range k).Nonempty}
    (h : μ.map pick = PMF.uniformOfFinset (Finset.range k) hk)
    (p : Nat → Prop) [DecidablePred p] :
    μ.toOuterMeasure {g | p (pick g)} = (((Finset.range k).filter p).card : ℝ≥0∞) / k := by
  have hmap := PMF.toOuterMeasure_map_apply pick μ {d | p d}
  rw [h, PMF.toOuterMeasure_uniformOfFinset_apply, Finset.card_range] at hmap
  refine hmap.symm.trans ?_
  congr!

/-- The leader at a given place is as likely as any other. -/
theorem toOuterMeasure_isLeader
    {hk : (Finset.range (bestCount scores)).Nonempty}
    (h : μ.map pick = PMF.uniformOfFinset (Finset.range (bestCount scores)) hk)
    (hplace : scores[i]? = some e) (hbest : IsBest scores e) :
    μ.toOuterMeasure {g | IsLeader scores (pick g) i e} = 1 / bestCount scores := by
  classical
  have hlead : IsLeader scores ((scores.take i).countP (IsBest scores ·)) i e :=
    ⟨hplace, hbest, rfl⟩
  have hdraws : (Finset.range (bestCount scores)).filter (IsLeader scores · i e) =
      {(scores.take i).countP (IsBest scores ·)} := by
    ext d
    rw [Finset.mem_filter, Finset.mem_range, Finset.mem_singleton]
    exact ⟨fun hd ↦ hd.2.before.symm, fun hd ↦ hd ▸ ⟨hlead.lt, hlead⟩⟩
  rw [toOuterMeasure_of_uniform h (IsLeader scores · i e), hdraws, Finset.card_singleton,
    Nat.cast_one]

/-- A name that several leaders have is chosen as often as all of them. -/
theorem toOuterMeasure_selectHost (hdraw : ∀ g n, 0 < n → (draw g n).1 < n)
    {hk : (Finset.range (bestCount scores)).Nonempty}
    (h : (μ.map fun g ↦ (draw g (bestCount scores)).1) =
      PMF.uniformOfFinset (Finset.range (bestCount scores)) hk) (name : String) :
    μ.toOuterMeasure {g | (selectHost draw g scores).1 = some name} =
      (scores.countP fun e ↦ IsBest scores e ∧ e.name = name) / bestCount scores := by
  have hne : scores ≠ [] := by
    rintro rfl
    simp [bestCount] at hk
  have hset : {g | (selectHost draw g scores).1 = some name} =
      {g | ((leaders scores)[(draw g (bestCount scores)).1]?).any (·.name == name) = true} := by
    ext g
    simp [selectHost_fst hdraw hne, Option.any_eq_true]
  have hcount : (leaders scores).countP (·.name == name) =
      scores.countP fun e ↦ IsBest scores e ∧ e.name = name := by
    rw [leaders_eq_filter, List.countP_filter]
    exact List.countP_congr fun e _ ↦ by simp [and_comm]
  rw [hset, toOuterMeasure_of_uniform h
    fun d ↦ ((leaders scores)[d]?).any (·.name == name) = true, ← length_leaders,
    card_filter_range_getElem?, hcount]

/-- Without a tie nothing is drawn. With one there is one draw, below the number of leaders, and the
leader with the number that is drawn is chosen. Each number belongs to one of them and each of them
to one number, so that none of them is preferred by a uniform draw. -/
theorem selectHost_fair (hdraw : ∀ g n, 0 < n → (draw g n).1 < n) (scores : List NodeScore) :
    (∀ g, (selectHost draw g scores).1 = none ↔ scores = []) ∧
    (scores ≠ [] → 0 < bestCount scores) ∧
    (bestCount scores = 1 → ∃ i e, IsLeader scores 0 i e ∧
      ∀ (draw : γ → Nat → Nat × γ) (g : γ), selectHost draw g scores = (some e.name, g)) ∧
    (2 ≤ bestCount scores → ∀ g, ∃ i e, IsLeader scores (draw g (bestCount scores)).1 i e ∧
      selectHost draw g scores = (some e.name, (draw g (bestCount scores)).2)) ∧
    (∀ d, d < bestCount scores → ∃! i, ∃ e, IsLeader scores d i e) ∧
    (∀ i e, scores[i]? = some e → IsBest scores e →
      ∃! d, d < bestCount scores ∧ IsLeader scores d i e) ∧
    ∀ (hk : (Finset.range (bestCount scores)).Nonempty) (μ : PMF γ),
      (μ.map fun g ↦ (draw g (bestCount scores)).1) =
        PMF.uniformOfFinset (Finset.range (bestCount scores)) hk →
      (∀ i e, scores[i]? = some e → IsBest scores e →
        μ.toOuterMeasure {g | IsLeader scores (draw g (bestCount scores)).1 i e} =
          1 / bestCount scores) ∧
      ∀ name, μ.toOuterMeasure {g | (selectHost draw g scores).1 = some name} =
        (scores.countP fun e ↦ IsBest scores e ∧ e.name = name) / bestCount scores := by
  refine ⟨fun g ↦ selectHost_fst_eq_none_iff hdraw, bestCount_pos, selectHost_of_bestCount_eq_one,
    selectHost_of_two_le hdraw, fun d hd ↦ ?number, fun i e hplace hbest ↦ ?leader,
    fun hk μ h ↦ ⟨fun i e ↦ toOuterMeasure_isLeader h, toOuterMeasure_selectHost hdraw h⟩⟩
  case number =>
    obtain ⟨i, e, he⟩ := exists_isLeader hd
    exact ⟨i, ⟨e, he⟩, fun j ⟨f, hf⟩ ↦ hf.place_unique he⟩
  case leader =>
    have hlead : IsLeader scores ((scores.take i).countP (IsBest scores ·)) i e :=
      ⟨hplace, hbest, rfl⟩
    exact ⟨_, ⟨hlead.lt, hlead⟩, fun d hd ↦ hd.2.before.symm⟩

/-- A number that is drawn from by its digits; the second and the fourth node lead. -/
theorem selectHost_fair_two_leaders :
    let scores : List NodeScore := [⟨"a", 10⟩, ⟨"b", 30⟩, ⟨"c", 20⟩, ⟨"d", 30⟩]
    let digit : Nat → Nat → Nat × Nat := fun g n ↦ (g % n, g / n)
    bestCount scores = 2 ∧ selectHost digit 7 scores = (some "d", 3) ∧
    selectHost digit 8 scores = (some "b", 4) ∧
    (PMF.uniformOfFinset (Finset.range 2) Finset.nonempty_range_add_one).toOuterMeasure
      {g | (selectHost digit g scores).1 = some "d"} = 1 / 2 := by
  intro scores digit
  have hcount : bestCount scores = 2 := by decide
  have hdigit (g n : Nat) (hn : 0 < n) : (digit g n).1 < n := Nat.mod_lt g hn
  obtain ⟨-, -, -, hties, -, -, huniform⟩ := selectHost_fair hdigit scores
  rw [hcount] at hties huniform
  have hb : IsLeader scores 0 1 ⟨"b", 30⟩ := ⟨rfl, by decide, by decide⟩
  have hd : IsLeader scores 1 3 ⟨"d", 30⟩ := ⟨rfl, by decide, by decide⟩
  have hlaw : (PMF.uniformOfFinset (Finset.range 2) Finset.nonempty_range_add_one).map
      (fun g ↦ (digit g 2).1) =
        PMF.uniformOfFinset (Finset.range 2) Finset.nonempty_range_add_one := by
    ext d
    rw [← PMF.toOuterMeasure_apply_singleton, ← PMF.toOuterMeasure_apply_singleton,
      PMF.toOuterMeasure_map_apply, PMF.toOuterMeasure_uniformOfFinset_apply,
      PMF.toOuterMeasure_uniformOfFinset_apply]
    -- Zero and one are their own last digits.
    rfl
  refine ⟨hcount, ?seven, ?eight, ?law⟩
  case seven =>
    obtain ⟨i, e, he, hsel⟩ := hties (Nat.le_refl 2) 7
    rw [hsel, he.entry_unique hd]
  case eight =>
    obtain ⟨i, e, he, hsel⟩ := hties (Nat.le_refl 2) 8
    rw [hsel, he.entry_unique hb]
  case law =>
    have hnamed : (scores.countP fun e ↦ IsBest scores e ∧ e.name = "d") = 1 := by decide
    have hd := (huniform _ _ hlaw).2 "d"
    rwa [hnamed, Nat.cast_one] at hd

end PodPlacement
