import Mathlib.Data.List.Perm.Basic
import Mathlib.Logic.IsEmpty.Basic
import PodPlacement.Proofs.Framework.Assembly

/-!
When plugins can be put together, and into what. The order in which a set lists its plugins decides
nothing but the order in which they run.
-/

namespace PodPlacement

namespace Framework

variable {α : Type}

def Meets (instances : List (String × Plugin)) (cast : Plugin → Option α) (choice : PluginChoice)
    (x : Named α) : Prop :=
  ∃ plugin, instances.lookup choice.name = some plugin ∧ plugin.name = x.name ∧
    cast plugin = some x.run

/-- The choices name different plugins, and these are in the order of the choices. -/
def Listed (instances : List (String × Plugin)) (cast : Plugin → Option α)
    (choices : List PluginChoice) (named : List (Named α)) : Prop :=
  (choices.map (·.name)).Nodup ∧ List.Forall₂ (Meets instances cast) choices named

structure Weighs (instances : List (String × Plugin)) (choice : PluginChoice) (x : WeightedScore) :
    Prop where
  positive : 1 ≤ choice.weight
  weight : x.weight = choice.weight
  meets : Meets instances (·.score) choice ⟨x.name, x.run⟩

/-- The framework is made of the plugins that the set names. -/
structure Installs (instances : List (String × Plugin)) (set : PluginSet) (framework : Framework) :
    Prop where
  preFilters : Listed instances (·.preFilter) set.preFilter framework.preFilters
  filters : Listed instances (·.filter) set.filter framework.filters
  preScores : Listed instances (·.preScore) set.preScore framework.preScores
  distinct : (set.score.map (·.name)).Nodup
  scores : List.Forall₂ (Weighs instances) set.score framework.scores
  started : framework.started = instances.map (·.1)

variable {point : Point} {instances : List (String × Plugin)} {cast : Plugin → Option α}

/-! ### One point -/

theorem assign_cons_eq_ok_iff {seen : List String} {choice : PluginChoice}
    {rest : List PluginChoice} {named : List (Named α)} :
    assign point instances cast seen (choice :: rest) = .ok named ↔
      choice.name ∉ seen ∧ ∃ x others, Meets instances cast choice x ∧
        assign point instances cast (choice.name :: seen) rest = .ok others ∧
        named = x :: others := by
  constructor
  · intro h
    simp only [assign] at h
    split at h
    · cases h
    · next hseen =>
      refine ⟨by simpa using hseen, ?_⟩
      split at h
      · cases h
      · next plugin hlookup =>
        split at h
        · cases h
        · next run hcast =>
          obtain ⟨others, hrest, rfl⟩ := exists_of_map_eq_ok h
          exact ⟨⟨plugin.name, run⟩, others, ⟨plugin, hlookup, rfl, hcast⟩, hrest, rfl⟩
  · rintro ⟨hseen, ⟨name, run⟩, others, ⟨plugin, hlookup, rfl, hcast⟩, hrest, rfl⟩
    simp [assign, hseen, hlookup, hcast, hrest, Except.map]

theorem assign_eq_ok_iff {seen : List String} {choices : List PluginChoice}
    {named : List (Named α)} : assign point instances cast seen choices = .ok named ↔
      Listed instances cast choices named ∧ ∀ c ∈ choices, c.name ∉ seen := by
  induction choices generalizing seen named with
  | nil => cases named <;> simp [assign, Listed]
  | cons choice rest ih =>
    simp only [assign_cons_eq_ok_iff, ih, Listed, List.map_cons, List.nodup_cons,
      List.forall₂_cons_left_iff, List.forall_mem_cons]
    constructor
    · rintro ⟨hseen, x, others, hmeets, ⟨⟨hnodup, hothers⟩, hfresh⟩, rfl⟩
      refine ⟨⟨⟨?_, hnodup⟩, x, others, hmeets, hothers, rfl⟩, hseen, ?_⟩
      · intro hmem
        obtain ⟨c, hc, heq⟩ := List.mem_map.1 hmem
        exact hfresh c hc (heq ▸ List.mem_cons_self ..)
      · intro c hc hmem
        exact hfresh c hc (List.mem_cons_of_mem _ hmem)
    · rintro ⟨⟨⟨hchoice, hnodup⟩, x, others, hmeets, hothers, rfl⟩, hseen, hfresh⟩
      refine ⟨hseen, x, others, hmeets, ⟨⟨hnodup, hothers⟩, ?_⟩, rfl⟩
      intro c hc hmem
      rcases List.mem_cons.1 hmem with heq | hmem
      · exact hchoice (heq ▸ List.mem_map_of_mem hc)
      · exact hfresh c hc hmem

theorem weigh_zip_eq_ok_iff {choices : List PluginChoice} {scorers : List (Named Score)}
    {scores : List WeightedScore} (h : List.Forall₂ (Meets instances (·.score)) choices scorers) :
    weigh (scorers.zip choices) = .ok scores ↔
      List.Forall₂ (Weighs instances) choices scores ∧
        scorers = scores.map fun x ↦ ⟨x.name, x.run⟩ := by
  induction h generalizing scores with
  | nil => cases scores <;> simp [weigh]
  | @cons choice scorer rest others hmeets _ ih =>
    simp only [List.zip_cons_cons, weigh, List.forall₂_cons_left_iff]
    constructor
    · intro hweigh
      split at hweigh
      · cases hweigh
      · next hpositive =>
        obtain ⟨more, hmore, rfl⟩ := exists_of_map_eq_ok hweigh
        obtain ⟨hweighs, rfl⟩ := ih.1 hmore
        exact ⟨⟨_, more, ⟨Int.not_lt.1 hpositive, rfl, hmeets⟩, hweighs, rfl⟩, rfl⟩
    · rintro ⟨⟨⟨name, weight, run⟩, more, ⟨hpositive, rfl, _⟩, hweighs, rfl⟩, heq⟩
      obtain ⟨rfl, rfl⟩ := List.cons.inj heq
      simp [Int.not_lt.2 hpositive, ih.2 ⟨hweighs, rfl⟩, Except.map]

theorem forall₂_meets_of_weighs {choices : List PluginChoice} {scores : List WeightedScore}
    (h : List.Forall₂ (Weighs instances) choices scores) :
    List.Forall₂ (Meets instances (·.score)) choices (scores.map fun x ↦ ⟨x.name, x.run⟩) :=
  List.forall₂_map_right_iff.2 (h.imp fun _ _ hx ↦ hx.meets)

/-! ### All points -/

variable {registry : Registry} {set set' : PluginSet} {framework : Framework}

def install (set : PluginSet) (instances : List (String × Plugin)) :
    Except SchedulingError Framework := do
  let preFilters ← assign .preFilter instances (·.preFilter) [] set.preFilter
  let filters ← assign .filter instances (·.filter) [] set.filter
  let preScores ← assign .preScore instances (·.preScore) [] set.preScore
  let scorers ← assign .score instances (·.score) [] set.score
  let scores ← weigh (scorers.zip set.score)
  return { preFilters, filters, preScores, scores, started := instances.map (·.1) }

theorem install_eq_ok_iff :
    install set instances = .ok framework ↔ Installs instances set framework := by
  constructor
  · intro h
    obtain ⟨preFilters, hpreFilters, h⟩ := exists_of_bind_eq_ok h
    obtain ⟨filters, hfilters, h⟩ := exists_of_bind_eq_ok h
    obtain ⟨preScores, hpreScores, h⟩ := exists_of_bind_eq_ok h
    obtain ⟨scorers, hscorers, h⟩ := exists_of_bind_eq_ok h
    obtain ⟨scores, hscores, h⟩ := exists_of_bind_eq_ok h
    cases h
    obtain ⟨hdistinct, hmeets⟩ := (assign_eq_ok_iff.1 hscorers).1
    exact ⟨(assign_eq_ok_iff.1 hpreFilters).1, (assign_eq_ok_iff.1 hfilters).1,
      (assign_eq_ok_iff.1 hpreScores).1, hdistinct, ((weigh_zip_eq_ok_iff hmeets).1 hscores).1, rfl⟩
  · intro h
    have hunseen {choices : List PluginChoice} : ∀ c ∈ choices, c.name ∉ ([] : List String) :=
      fun _ _ ↦ List.not_mem_nil
    have hmeets := forall₂_meets_of_weighs h.scores
    have hpreFilters : assign .preFilter instances (·.preFilter) [] set.preFilter = .ok _ :=
      assign_eq_ok_iff.2 ⟨h.preFilters, hunseen⟩
    have hfilters : assign .filter instances (·.filter) [] set.filter = .ok _ :=
      assign_eq_ok_iff.2 ⟨h.filters, hunseen⟩
    have hpreScores : assign .preScore instances (·.preScore) [] set.preScore = .ok _ :=
      assign_eq_ok_iff.2 ⟨h.preScores, hunseen⟩
    have hscorers : assign .score instances (·.score) [] set.score = .ok _ :=
      assign_eq_ok_iff.2 ⟨⟨h.distinct, hmeets⟩, hunseen⟩
    have hscores := (weigh_zip_eq_ok_iff hmeets).2 ⟨h.scores, rfl⟩
    simp only [install, hpreFilters, hfilters, hpreScores, hscorers, hscores, bind,
      Except.bind, pure, Except.pure, ← h.started]

theorem ofPlugins_eq (registry : Registry) (set : PluginSet) : ofPlugins registry set =
    start set.names registry.factories.entries >>= install set := rfl

theorem ofPlugins_eq_ok_iff : ofPlugins registry set = .ok framework ↔
    ∃ instances, start set.names registry.factories.entries = .ok instances ∧
      Installs instances set framework := by
  rw [ofPlugins_eq]
  constructor
  · intro h
    obtain ⟨instances, hstart, h⟩ := exists_of_bind_eq_ok h
    exact ⟨instances, hstart, install_eq_ok_iff.1 h⟩
  · rintro ⟨instances, hstart, h⟩
    rw [hstart]
    exact install_eq_ok_iff.2 h

end Framework

end PodPlacement
