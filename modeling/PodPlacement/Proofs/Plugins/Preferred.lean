import PodPlacement.Proofs.Plugins.Pairwise
import PodPlacement.Proofs.Plugins.Preparation

/-!
Affinity that pods would like to have, pair by pair. The gains and losses that are gathered by
domain add up, over the labels of a node, to what a look at every placed pod would give; and the
scores spread these sums in their order, whatever the order of the nodes and pods.
-/

namespace PodPlacement

instance (a b : Node) (key : String) : Decidable (a.Shares b key) :=
  decidable_of_iff ((a.labels.get? key).any fun value ↦ b.labels.get? key == some value)
    (by simp [Node.Shares, Option.any_eq_true])

namespace Plugins.InterPodAffinity

def weighed (m n : Node) (owner other : Pod) (terms : List WeightedPodAffinityTerm) : Int :=
  (terms.map fun w ↦
    if owner.termSelects w.term other = true ∧ m.Shares n w.term.topologyKey then w.weight
    else 0).sum

/-- How much `owner` would like the company of `other`, one of them on `m` and the other on `n`. -/
def liking (m n : Node) (owner other : Pod) : Int :=
  weighed m n owner other owner.preferredTerms - weighed m n owner other owner.preferredAntiTerms

/-- How much the pod and all placed pods would like it to be on the node. -/
def wished (nodes : List NodeInfo) (p : Pod) (n : Node) : Int :=
  (nodes.map fun m ↦ (m.pods.map fun e ↦ liking m.node n p e + liking m.node n e p).sum).sum

variable {s : Snapshot} {p owner other : Pod} {m n : NodeInfo} {d : Domain}

/-! ### Sums by domain -/

theorem get_add (t : DomainScores) (d d' : Domain) (weight : Int) :
    (t.add d weight).get d' = t.get d' + if d' = d then weight else 0 := by
  obtain ⟨key, value⟩ := d
  obtain ⟨key', value'⟩ := d'
  simp only [DomainScores.add, DomainScores.get, Table.adjust, Table.getD, Table.get?_insert,
    Domain.mk.injEq]
  by_cases hkey : key' = key
  · by_cases hvalue : value' = value
    · simp [hkey, hvalue]
    · simp [hkey, hvalue]
  · simp [hkey]

theorem rawScore_eq_sum (t : DomainScores) : rawScore t n = (n.domains.map t.get).sum := by
  rw [List.sum_eq_foldl, List.foldl_map]
  rfl

theorem nodup_domains (n : NodeInfo) : n.domains.Nodup := by
  apply List.Nodup.of_map Domain.key
  rw [NodeInfo.domains, List.map_map]
  exact n.node.labels.keys_nodup

/-- No label of a node comes twice, so what is added to a domain is counted once. -/
theorem rawScore_add (t : DomainScores) (d : Domain) (weight : Int) :
    rawScore (t.add d weight) n = rawScore t n + if d ∈ n.domains then weight else 0 := by
  have hcount := (nodup_domains n).count (a := d)
  rw [rawScore_eq_sum, rawScore_eq_sum, funext fun d' ↦ get_add t d d' weight, List.sum_map_add,
    List.sum_map_ite_eq n.domains (fun _ ↦ weight) (fun _ ↦ 0) d, hcount]
  split_ifs <;> simp

def reaching (n : NodeInfo) (es : List (Domain × Int)) : Int :=
  (es.map fun e ↦ if e.1 ∈ n.domains then e.2 else 0).sum

theorem rawScore_foldl_add (es : List (Domain × Int)) (t : DomainScores) :
    rawScore (es.foldl (fun t e ↦ t.add e.1 e.2) t) n = rawScore t n + reaching n es := by
  induction es generalizing t with
  | nil => simp [reaching]
  | cons e es ih =>
    rw [List.foldl_cons, ih, rawScore_add, reaching, reaching, List.map_cons, List.sum_cons,
      Int.add_assoc]

theorem reaching_append (es es' : List (Domain × Int)) :
    reaching n (es ++ es') = reaching n es + reaching n es' := by
  rw [reaching, List.map_append, List.sum_append]
  rfl

theorem reaching_flatMap {ι : Type} (xs : List ι) (f : ι → List (Domain × Int)) :
    reaching n (xs.flatMap f) = (xs.map fun x ↦ reaching n (f x)).sum := by
  induction xs with
  | nil => rfl
  | cons x xs ih => rw [List.flatMap_cons, reaching_append, ih, List.map_cons, List.sum_cons]

theorem sum_placements (f : NodeInfo → Pod → Int) :
    (s.placements.map fun x ↦ f x.1 x.2).sum =
      (s.nodes.map fun m ↦ (m.pods.map fun e ↦ f m e).sum).sum := by
  rw [Snapshot.placements]
  induction s.nodes with
  | nil => rfl
  | cons m nodes ih =>
    rw [List.flatMap_cons, List.map_append, List.sum_append, ih, List.map_map, List.map_cons,
      List.sum_cons]
    rfl

/-! ### Pairs -/

def given? (m : NodeInfo) (owner other : Pod) (sign : Int) (w : WeightedPodAffinityTerm) :
    Option (Domain × Int) :=
  if owner.termSelects w.term other then
    (m.domain? w.term.topologyKey).map (·, sign * w.weight)
  else none

theorem contributions_eq (m : NodeInfo) (owner other : Pod) : contributions m owner other =
    owner.preferredTerms.filterMap (given? m owner other 1) ++
      owner.preferredAntiTerms.filterMap (given? m owner other (-1)) := rfl

theorem reaching_given? (sign : Int) (w : WeightedPodAffinityTerm) :
    reaching n (given? m owner other sign w).toList = sign *
      if owner.termSelects w.term other = true ∧ m.node.Shares n.node w.term.topologyKey
      then w.weight else 0 := by
  rw [given?]
  by_cases hselects : owner.termSelects w.term other = true
  · cases hdomain : m.domain? w.term.topologyKey with
    | none =>
      have hapart : ¬m.node.Shares n.node w.term.topologyKey := by
        rintro ⟨value, hvalue, -⟩
        rw [domain?_of_get? hvalue] at hdomain
        cases hdomain
      simp [hselects, hapart, reaching]
    | some d =>
      obtain ⟨hkey, hvalue⟩ := domain?_eq_some_iff.1 hdomain
      have hshares : d ∈ n.domains ↔ m.node.Shares n.node w.term.topologyKey := by
        rw [mem_domains_iff, hkey]
        constructor
        · intro hhere
          exact ⟨d.value, hvalue, hhere⟩
        · rintro ⟨value, hthere, hhere⟩
          rw [hhere, ← hthere, hvalue]
      simp [hselects, reaching, hshares]
  · simp [hselects, reaching]

theorem reaching_filterMap (sign : Int) (terms : List WeightedPodAffinityTerm) :
    reaching n (terms.filterMap (given? m owner other sign)) =
      sign * weighed m.node n.node owner other terms := by
  rw [List.filterMap_eq_flatMap_toList, reaching_flatMap, weighed, ← List.sum_map_mul_left]
  simp only [reaching_given?]

theorem reaching_contributions (m n : NodeInfo) (owner other : Pod) :
    reaching n (contributions m owner other) = liking m.node n.node owner other := by
  rw [contributions_eq, reaching_append, reaching_filterMap, reaching_filterMap, liking]
  omega

/-- The sums by domain, read back through the labels of a node, are the sum over the pairs. -/
theorem rawScore_domainScores (s : Snapshot) (p : Pod) (n : NodeInfo) :
    rawScore (domainScores s p) n = wished s.nodes p n.node := by
  have hnone : rawScore (∅ : Table (Table Int)) n = 0 := by
    rw [rawScore_eq_sum]
    apply List.sum_eq_zero
    intro x hx
    obtain ⟨d, -, rfl⟩ := List.mem_map.1 hx
    rfl
  rw [domainScores, rawScore_foldl_add, hnone, Int.zero_add, reaching_flatMap, wished]
  simp only [reaching_append, reaching_contributions]
  exact sum_placements fun m e ↦ liking m.node n.node p e + liking m.node n.node e p

/-! ### Scores -/

variable {nodes nodes' : List NodeInfo} {env : Surroundings} {notes : CycleState} {low high : Int}

def rawScores (s : Snapshot) (p : Pod) (nodes : List NodeInfo) : Set Int :=
  {x | ∃ n ∈ nodes, wished s.nodes p n.node = x}

/-- Where `x` is between the bounds, in hundredths; zero where they are one. -/
def spread (low high x : Int) : Int :=
  if low < high then maxScore * (x - low) / (high - low) else 0

theorem spread_low : spread low high low = 0 := by
  rw [spread, Int.sub_self, Int.mul_zero, Int.zero_ediv, ite_self]

theorem spread_high (h : low < high) : spread low high high = maxScore := by
  rw [spread, if_pos h]
  exact Int.mul_ediv_cancel _ (by omega)

theorem spread_mono {x y : Int} (h : x ≤ y) : spread low high x ≤ spread low high y := by
  simp only [spread]
  split_ifs with hlt
  · apply Int.ediv_le_ediv (by omega)
    exact Int.mul_le_mul_of_nonneg_left (by omega) (by decide)
  · exact le_rfl

theorem inRange_spread {x : Int} (hlow : low ≤ x) (hhigh : x ≤ high) :
    InRange (spread low high x) := by
  simp only [spread]
  split_ifs with hlt
  · exact inRange_share (by omega) (by omega) (by omega)
  · exact inRange_zero

theorem isLeast_rawScores_iff : IsLeast (rawScores s p nodes) low ↔
    (nodes.map fun n ↦ wished s.nodes p n.node).min? = some low := by
  simp only [List.min?_eq_some_iff, List.mem_map]
  rfl

theorem isGreatest_rawScores_iff : IsGreatest (rawScores s p nodes) high ↔
    (nodes.map fun n ↦ wished s.nodes p n.node).max? = some high := by
  simp only [List.max?_eq_some_iff, List.mem_map]
  rfl

theorem exists_bounds (hn : n ∈ nodes) :
    ∃ low high, IsLeast (rawScores s p nodes) low ∧ IsGreatest (rawScores s p nodes) high := by
  have hsome : (nodes.map fun n ↦ wished s.nodes p n.node) ≠ [] := by
    intro hnil
    rw [List.map_eq_nil_iff.1 hnil] at hn
    cases hn
  obtain ⟨low, hlow⟩ := Option.ne_none_iff_exists'.1 (mt List.min?_eq_none_iff.1 hsome)
  obtain ⟨high, hhigh⟩ := Option.ne_none_iff_exists'.1 (mt List.max?_eq_none_iff.1 hsome)
  exact ⟨low, high, isLeast_rawScores_iff.2 hlow, isGreatest_rawScores_iff.2 hhigh⟩

theorem bounds_of_equal (hequal : ∀ m ∈ nodes, ∀ n ∈ nodes,
      wished s.nodes p m.node = wished s.nodes p n.node) (hn : n ∈ nodes) :
    IsLeast (rawScores s p nodes) (wished s.nodes p n.node) ∧
      IsGreatest (rawScores s p nodes) (wished s.nodes p n.node) := by
  refine ⟨⟨⟨n, hn, rfl⟩, ?_⟩, ⟨⟨n, hn, rfl⟩, ?_⟩⟩
  · rintro _ ⟨m, hm, rfl⟩
    exact (hequal n hn m hm).le
  · rintro _ ⟨m, hm, rfl⟩
    exact (hequal m hm n hn).le

theorem bounds_lt (hlow : IsLeast (rawScores s p nodes) low)
    (hhigh : IsGreatest (rawScores s p nodes) high) (hm : m ∈ nodes) (hn : n ∈ nodes)
    (hne : wished s.nodes p m.node ≠ wished s.nodes p n.node) : low < high := by
  have hmlow := hlow.2 ⟨m, hm, rfl⟩
  have hnlow := hlow.2 ⟨n, hn, rfl⟩
  have hmhigh := hhigh.2 ⟨m, hm, rfl⟩
  have hnhigh := hhigh.2 ⟨n, hn, rfl⟩
  omega

theorem score_preScore (env : Surroundings) (notes : CycleState) (p : Pod)
    (nodes : List NodeInfo) (n : NodeInfo) : score env (preScore notes p nodes).2 p n =
      .ok ((nodeScores notes.snapshot p nodes).getD n.name 0) := by
  have hnote : (preScore notes p nodes).2.read? scoreNote =
      some (.nodeScores (nodeScores notes.snapshot p nodes)) := by
    change (notes.write scoreNote _).read? scoreNote = _
    rw [read?_write, if_pos rfl]
    rfl
  rw [score, hnote]

theorem nodeScores_eq (s : Snapshot) (p : Pod) (nodes : List NodeInfo) :
    nodeScores s p nodes = .ofList (nodes.map fun n ↦
      (n.name, spread ((nodes.map fun n ↦ wished s.nodes p n.node).min?.getD 0)
        ((nodes.map fun n ↦ wished s.nodes p n.node).max?.getD 0)
        (wished s.nodes p n.node))) := by
  simp only [nodeScores, normalize, rawScore_domainScores, List.map_map]
  rfl

theorem score_of_bounds (env : Surroundings) (hnames : (nodes.map (·.name)).Nodup)
    (hlow : IsLeast (rawScores notes.snapshot p nodes) low)
    (hhigh : IsGreatest (rawScores notes.snapshot p nodes) high) (hn : n ∈ nodes) :
    score env (preScore notes p nodes).2 p n =
      .ok (spread low high (wished notes.snapshot.nodes p n.node)) := by
  have hget : (nodeScores notes.snapshot p nodes).get? n.name =
      some (spread low high (wished notes.snapshot.nodes p n.node)) := by
    rw [nodeScores_eq, isLeast_rawScores_iff.1 hlow, isGreatest_rawScores_iff.1 hhigh]
    apply Table.get?_ofList
    · rw [List.map_map]
      exact hnames
    · exact List.mem_map.2 ⟨n, hn, rfl⟩
  rw [score_preScore, Table.getD, hget, Option.getD_some]

/-! ### Order -/

def unordered (m : NodeInfo) : Node × Multiset Pod := (m.node, m.pods)

/-- The same nodes with the same pods, in whatever order. -/
def Rearranged (nodes nodes' : List NodeInfo) : Prop :=
  (nodes.map unordered).Perm (nodes'.map unordered)

theorem wished_eq_sum (nodes : List NodeInfo) (p : Pod) (n : Node) : wished nodes p n =
    ((nodes.map unordered).map fun m ↦
      (m.2.map fun e ↦ liking m.1 n p e + liking m.1 n e p).sum).sum := by
  rw [wished, List.map_map]
  rfl

theorem Rearranged.wished_eq (h : Rearranged nodes nodes') (p : Pod) (n : Node) :
    wished nodes p n = wished nodes' p n := by
  rw [wished_eq_sum, wished_eq_sum]
  exact (h.map _).sum_eq

theorem Rearranged.nodes_perm (h : Rearranged nodes nodes') :
    (nodes.map (·.node)).Perm (nodes'.map (·.node)) := by
  have hnodes := h.map Prod.fst
  rwa [List.map_map, List.map_map] at hnodes

theorem Rearranged.names_nodup (h : Rearranged nodes nodes')
    (hnames : (nodes.map (·.name)).Nodup) : (nodes'.map (·.name)).Nodup := by
  have hperm := h.nodes_perm.map Node.name
  rw [List.map_map, List.map_map] at hperm
  exact hperm.nodup_iff.1 hnames

theorem Rearranged.rawScores_eq {s s' : Snapshot} (hs : Rearranged s.nodes s'.nodes)
    (h : Rearranged nodes nodes') (p : Pod) : rawScores s p nodes = rawScores s' p nodes' := by
  have hmem (s : Snapshot) (nodes : List NodeInfo) (x : Int) : x ∈ rawScores s p nodes ↔
      ∃ n ∈ nodes.map (·.node), wished s.nodes p n = x := by
    simp [rawScores]
  ext x
  simp only [hmem, h.nodes_perm.mem_iff, hs.wished_eq]

theorem Rearranged.score_eq {notes' : CycleState} {n' : NodeInfo}
    (hnotes : Rearranged notes.snapshot.nodes notes'.snapshot.nodes)
    (hnodes : Rearranged nodes nodes') (hnames : (nodes.map (·.name)).Nodup) (hn : n ∈ nodes)
    (hn' : n' ∈ nodes') (hsame : n'.node = n.node) :
    score env (preScore notes' p nodes').2 p n' = score env (preScore notes p nodes).2 p n := by
  obtain ⟨low, high, hlow, hhigh⟩ := exists_bounds (s := notes.snapshot) (p := p) hn
  have hscore := score_of_bounds env hnames hlow hhigh hn
  rw [hnotes.rawScores_eq hnodes p] at hlow hhigh
  have hscore' := score_of_bounds env (hnodes.names_nodup hnames) hlow hhigh hn'
  rw [hsame, ← hnotes.wished_eq] at hscore'
  rw [hscore, hscore']

/-- Scores are the sums over all pairs, spread from the least of them at zero to the greatest at a
hundred, and zero where all are equal. -/
theorem preferred_pairwise (hnames : (nodes.map (·.name)).Nodup) (env : Surroundings)
    (notes : CycleState) (p : Pod) :
    let raw (n : NodeInfo) := wished notes.snapshot.nodes p n.node
    let scored (n : NodeInfo) := score env (preScore notes p nodes).2 p n
    (preScore notes p nodes).1.isSuccess = true ∧
    ((∀ m ∈ nodes, ∀ n ∈ nodes, raw m = raw n) → ∀ n ∈ nodes, scored n = .ok 0) ∧
    ((∃ m ∈ nodes, ∃ n ∈ nodes, raw m ≠ raw n) → ∃ low high,
      IsLeast {x | ∃ n ∈ nodes, raw n = x} low ∧ IsGreatest {x | ∃ n ∈ nodes, raw n = x} high ∧
      low < high ∧ ∀ n ∈ nodes, scored n = .ok (100 * (raw n - low) / (high - low)) ∧
        (raw n = low → scored n = .ok 0) ∧ (raw n = high → scored n = .ok 100)) ∧
    (∀ n ∈ nodes, ∃ x, scored n = .ok x ∧ 0 ≤ x ∧ x ≤ 100) ∧
    (∀ m ∈ nodes, ∀ n ∈ nodes, raw m ≤ raw n →
      ∃ x y, scored m = .ok x ∧ scored n = .ok y ∧ x ≤ y) ∧
    ∀ (notes' : CycleState) (nodes' : List NodeInfo),
      Rearranged notes.snapshot.nodes notes'.snapshot.nodes → Rearranged nodes nodes' →
      ∀ n ∈ nodes, ∀ n' ∈ nodes', n'.node = n.node →
        score env (preScore notes' p nodes').2 p n' = scored n := by
  intro raw scored
  refine ⟨rfl, ?equal, ?unequal, ?range, ?monotone, ?order⟩
  case equal =>
    intro hequal n hn
    obtain ⟨hlow, hhigh⟩ := bounds_of_equal hequal hn
    have hscore := score_of_bounds env hnames hlow hhigh hn
    rwa [spread_low] at hscore
  case unequal =>
    rintro ⟨m, hm, n, hn, hne⟩
    obtain ⟨low, high, hlow, hhigh⟩ := exists_bounds (s := notes.snapshot) (p := p) hm
    have hlt := bounds_lt hlow hhigh hm hn hne
    refine ⟨low, high, hlow, hhigh, hlt, ?_⟩
    intro n hn
    have hscore : scored n = .ok (spread low high (raw n)) :=
      score_of_bounds env hnames hlow hhigh hn
    refine ⟨?_, ?_, ?_⟩
    · rwa [spread, if_pos hlt] at hscore
    · intro heq
      rwa [heq, spread_low] at hscore
    · intro heq
      rwa [heq, spread_high hlt] at hscore
  case range =>
    intro n hn
    obtain ⟨low, high, hlow, hhigh⟩ := exists_bounds (s := notes.snapshot) (p := p) hn
    have hrange := inRange_spread (hlow.2 ⟨n, hn, rfl⟩) (hhigh.2 ⟨n, hn, rfl⟩)
    exact ⟨_, score_of_bounds env hnames hlow hhigh hn, hrange⟩
  case monotone =>
    intro m hm n hn hle
    obtain ⟨low, high, hlow, hhigh⟩ := exists_bounds (s := notes.snapshot) (p := p) hn
    exact ⟨_, _, score_of_bounds env hnames hlow hhigh hm,
      score_of_bounds env hnames hlow hhigh hn, spread_mono hle⟩
  case order =>
    intro notes' nodes' hnotes hnodes n hn n' hn' hsame
    exact hnotes.score_eq hnodes hnames hn hn' hsame

namespace Seeker

/-! A web server that would like the company of another; a pod that would rather have none of them;
and a zone with neither. -/

open Rivals

def webInZone (weight : Int) : WeightedPodAffinityTerm where
  weight
  term := { labelSelector := some webServers, topologyKey := "zone" }

def seeker : Pod where
  metadata := { name := some "seeker", labels := some (.ofList [("app", "web")]) }
  spec := some { affinity := some { pod := some { preferred := some [webInZone 10] } } }

def shy : Pod where
  metadata := { name := some "shy" }
  spec := some { affinity := some { podAnti := some { preferred := some [webInZone 5] } } }

def withWeb : NodeInfo := { east with pods := [web] }

def withShy : NodeInfo := { west with pods := [shy] }

def hosts : List NodeInfo := [withWeb, east₂, withShy, inZone "n4" "north"]

def placed : CycleState := { snapshot := .ofNodes hosts }

end Seeker

open Seeker in
theorem preferred_pairwise_seeker :
    (hosts.map (·.name)).Nodup ∧
      hosts.map (fun n ↦ wished hosts seeker n.node) = [10, 10, -5, 0] ∧
      hosts.map (fun n ↦ (score {} (preScore placed seeker hosts.reverse).2 seeker n).toOption) =
        [some 100, some 100, some 0, some 33] := by
  have hnames : (hosts.map (·.name)).Nodup := by decide +kernel
  have hleast : ∀ n ∈ hosts, -5 ≤ wished hosts seeker n.node := by decide +kernel
  have hmost : ∀ n ∈ hosts, wished hosts seeker n.node ≤ 10 := by decide +kernel
  have hweb : wished hosts seeker withWeb.node = 10 := by decide +kernel
  have hshy : wished hosts seeker withShy.node = -5 := by decide +kernel
  have hmem : withWeb ∈ hosts := .head _
  have hmem' : withShy ∈ hosts := .tail _ (.tail _ (.head _))
  have hne : wished hosts seeker withWeb.node ≠ wished hosts seeker withShy.node := by
    rw [hweb, hshy]
    decide
  obtain ⟨-, -, hunequal, -, -, horder⟩ := preferred_pairwise hnames {} placed seeker
  obtain ⟨low, high, hlow, hhigh, -, hscored⟩ := hunequal ⟨_, hmem, _, hmem', hne⟩
  have hlow : low = -5 := by
    apply hlow.unique
    refine ⟨⟨_, hmem', hshy⟩, ?_⟩
    rintro _ ⟨n, hn, rfl⟩
    exact hleast n hn
  have hhigh : high = 10 := by
    apply hhigh.unique
    refine ⟨⟨_, hmem, hweb⟩, ?_⟩
    rintro _ ⟨n, hn, rfl⟩
    exact hmost n hn
  have hreversed : ∀ n ∈ hosts,
      (score {} (preScore placed seeker hosts.reverse).2 seeker n).toOption =
        some (100 * (wished hosts seeker n.node - -5) / (10 - -5)) := by
    intro n hn
    have hscore := (hscored n hn).1
    rw [hlow, hhigh] at hscore
    rw [horder placed hosts.reverse (.refl _) ((List.reverse_perm hosts).symm.map _) n hn n
      (List.mem_reverse.2 hn) rfl, hscore]
    rfl
  refine ⟨hnames, by decide +kernel, ?_⟩
  rw [List.map_congr_left hreversed]
  decide +kernel

end Plugins.InterPodAffinity

end PodPlacement
