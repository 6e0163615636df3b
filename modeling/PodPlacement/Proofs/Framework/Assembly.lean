import PodPlacement.Framework.Basic
import PodPlacement.Plugins.InTree
import PodPlacement.Proofs.Table

/-!
What putting a framework together guarantees: no plugin appears twice at one point, and each goes by
the name under which it was chosen.
-/

namespace PodPlacement

variable {ε α β : Type}

theorem exists_of_bind_eq_ok {x : Except ε α} {f : α → Except ε β} {b : β}
    (h : (x >>= f) = .ok b) : ∃ a, x = .ok a ∧ f a = .ok b := by
  cases x with
  | error e => cases h
  | ok a => exact ⟨a, rfl, h⟩

theorem exists_of_map_eq_ok {x : Except ε α} {f : α → β} {b : β} (h : x.map f = .ok b) :
    ∃ a, x = .ok a ∧ f a = b := by
  cases x with
  | error e => cases h
  | ok a => exact ⟨a, rfl, Except.ok.inj h⟩

/-- Every plugin that a factory builds bears the name of the factory. -/
def Registry.NamesPlugins (r : Registry) : Prop :=
  ∀ e ∈ r.factories.entries, ∀ plugin, e.2 = .ok plugin → plugin.name = e.1

theorem Registry.ofPlugins_namesPlugins (plugins : List Plugin) :
    (Registry.ofPlugins plugins).NamesPlugins := by
  intro e he plugin hplugin
  have hmem := Table.mem_of_mem_ofList he
  obtain ⟨q, _, rfl⟩ := List.mem_map.1 hmem
  cases hplugin
  rfl

namespace Framework

theorem mem_start {wanted : List String} {entries : List (String × PluginFactory)}
    {instances : List (String × Plugin)} (h : start wanted entries = .ok instances) :
    ∀ e ∈ instances, (e.1, .ok e.2) ∈ entries := by
  induction entries generalizing instances with
  | nil =>
    cases h
    intro e he
    cases he
  | cons entry rest ih =>
    obtain ⟨name, factory⟩ := entry
    simp only [start] at h
    split at h
    · cases factory with
      | error cause => cases h
      | ok plugin =>
        obtain ⟨others, hrest, rfl⟩ := exists_of_map_eq_ok h
        intro e he
        rcases List.mem_cons.1 he with rfl | he
        · exact List.mem_cons_self ..
        · exact List.mem_cons_of_mem _ (ih hrest e he)
    · exact fun e he ↦ List.mem_cons_of_mem _ (ih h e he)

variable {point : Point} {instances : List (String × Plugin)} {cast : Plugin → Option α}

theorem lookup_mem {name : String} {x : β} {es : List (String × β)}
    (h : es.lookup name = some x) : (name, x) ∈ es := by
  induction es with
  | nil => cases h
  | cons e es ih =>
    rw [Table.lookup_cons_ite] at h
    split at h
    · next heq =>
      cases h
      exact heq ▸ List.mem_cons_self ..
    · exact List.mem_cons_of_mem _ (ih h)

theorem assign_cons {seen : List String} {choice : PluginChoice} {rest : List PluginChoice}
    {named : List (Named α)} (h : assign point instances cast seen (choice :: rest) = .ok named) :
    choice.name ∉ seen ∧ ∃ plugin run others, (choice.name, plugin) ∈ instances ∧
      cast plugin = some run ∧
      assign point instances cast (choice.name :: seen) rest = .ok others ∧
      named = ⟨plugin.name, run⟩ :: others := by
  simp only [assign] at h
  split at h
  · cases h
  · next hseen =>
    refine ⟨by simpa using hseen, ?_⟩
    cases hlookup : instances.lookup choice.name with
    | none =>
      rw [hlookup] at h
      cases h
    | some plugin =>
      rw [hlookup] at h
      cases hcast : cast plugin with
      | none =>
        simp only [hcast] at h
        cases h
      | some run =>
        simp only [hcast] at h
        obtain ⟨others, hrest, rfl⟩ := exists_of_map_eq_ok h
        exact ⟨plugin, run, others, lookup_mem hlookup, hcast, hrest, rfl⟩

/-- Plugins stand in the order in which they were chosen, each once and none seen before. -/
theorem assign_names (hnames : ∀ e ∈ instances, e.2.name = e.1) {seen : List String}
    {choices : List PluginChoice} {named : List (Named α)}
    (h : assign point instances cast seen choices = .ok named) :
    named.map (·.name) = choices.map (·.name) ∧ (choices.map (·.name)).Nodup ∧
      ∀ c ∈ choices, c.name ∉ seen := by
  induction choices generalizing seen named with
  | nil =>
    cases h
    exact ⟨rfl, .nil, by simp⟩
  | cons choice rest ih =>
    obtain ⟨hseen, plugin, run, others, hplugin, _, hrest, rfl⟩ := assign_cons h
    obtain ⟨hsame, hnodup, hfresh⟩ := ih hrest
    refine ⟨?_, ?_, fun c hc ↦ ?_⟩
    · rw [List.map_cons, List.map_cons, hsame, hnames _ hplugin]
    · refine List.nodup_cons.2 ⟨fun hmem ↦ ?_, hnodup⟩
      obtain ⟨c, hc, heq⟩ := List.mem_map.1 hmem
      exact hfresh c hc (heq ▸ List.mem_cons_self ..)
    · rcases List.mem_cons.1 hc with rfl | hc
      · exact hseen
      · exact fun hmem ↦ hfresh c hc (List.mem_cons_of_mem _ hmem)

/-- What a point runs is what the plugins of the chosen names have to say there. -/
theorem mem_assign {seen : List String} {choices : List PluginChoice} {named : List (Named α)}
    (h : assign point instances cast seen choices = .ok named) :
    ∀ x ∈ named, ∃ choice ∈ choices, ∃ plugin, (choice.name, plugin) ∈ instances ∧
      cast plugin = some x.run ∧ plugin.name = x.name := by
  induction choices generalizing seen named with
  | nil =>
    cases h
    intro x hx
    cases hx
  | cons choice rest ih =>
    obtain ⟨_, plugin, run, others, hplugin, hcast, hrest, rfl⟩ := assign_cons h
    intro x hx
    rcases List.mem_cons.1 hx with rfl | hx
    · exact ⟨choice, List.mem_cons_self .., plugin, hplugin, hcast, rfl⟩
    · obtain ⟨c, hc, found⟩ := ih hrest x hx
      exact ⟨c, List.mem_cons_of_mem _ hc, found⟩

/-- A weighted plugin has the name and the function of the plugin, one for one. -/
theorem weigh_parts {pairs : List (Named Score × PluginChoice)} {scores : List WeightedScore}
    (h : weigh pairs = .ok scores) :
    scores.map (fun x ↦ (⟨x.name, x.run⟩ : Named Score)) = pairs.map (·.1) := by
  induction pairs generalizing scores with
  | nil =>
    cases h
    rfl
  | cons pair rest ih =>
    obtain ⟨plugin, choice⟩ := pair
    simp only [weigh] at h
    split at h
    · cases h
    · obtain ⟨others, hrest, rfl⟩ := exists_of_map_eq_ok h
      rw [List.map_cons, List.map_cons, ih hrest]

theorem weigh_names {pairs : List (Named Score × PluginChoice)} {scores : List WeightedScore}
    (h : weigh pairs = .ok scores) : scores.map (·.name) = pairs.map (·.1.name) := by
  have hnames := congrArg (List.map (·.name)) (weigh_parts h)
  rwa [List.map_map, List.map_map] at hnames

/-- What the parts of a framework come from. -/
theorem ofPlugins_parts {registry : Registry} {set : PluginSet} {framework : Framework}
    (h : ofPlugins registry set = .ok framework) :
    ∃ instances scorers, start set.names registry.factories.entries = .ok instances ∧
      assign .preFilter instances (·.preFilter) [] set.preFilter = .ok framework.preFilters ∧
      assign .filter instances (·.filter) [] set.filter = .ok framework.filters ∧
      assign .preScore instances (·.preScore) [] set.preScore = .ok framework.preScores ∧
      assign .score instances (·.score) [] set.score = .ok scorers ∧
      weigh (scorers.zip set.score) = .ok framework.scores := by
  obtain ⟨instances, hstart, h⟩ := exists_of_bind_eq_ok h
  obtain ⟨preFilters, hpre, h⟩ := exists_of_bind_eq_ok h
  obtain ⟨filters, hfilter, h⟩ := exists_of_bind_eq_ok h
  obtain ⟨preScores, hprescore, h⟩ := exists_of_bind_eq_ok h
  obtain ⟨scorers, hscore, h⟩ := exists_of_bind_eq_ok h
  obtain ⟨scores, hweigh, h⟩ := exists_of_bind_eq_ok h
  cases h
  exact ⟨instances, scorers, hstart, hpre, hfilter, hprescore, hscore, hweigh⟩

theorem names_of_start {registry : Registry} (hregistry : registry.NamesPlugins)
    {wanted : List String} (h : start wanted registry.factories.entries = .ok instances) :
    ∀ e ∈ instances, e.2.name = e.1 :=
  fun e he ↦ hregistry _ (mem_start h e he) e.2 rfl

theorem score_names_nodup {registry : Registry} (hregistry : registry.NamesPlugins)
    {set : PluginSet} {framework : Framework} (h : ofPlugins registry set = .ok framework) :
    (framework.scores.map (·.name)).Nodup := by
  obtain ⟨instances, scorers, hstart, _, _, _, hscore, hweigh⟩ := ofPlugins_parts h
  obtain ⟨hsame, hnodup, _⟩ := assign_names (names_of_start hregistry hstart) hscore
  have hlen : scorers.length = set.score.length := by
    rw [← List.length_map (·.name), hsame, List.length_map]
  have hzip : (scorers.zip set.score).map (·.1.name) = scorers.map (·.name) := by
    have hfst := List.map_fst_zip (Nat.le_of_eq hlen)
    rw [← hfst, List.map_map, hfst]
    rfl
  rw [weigh_names hweigh, hzip, hsame]
  exact hnodup

theorem mem_of_mem_start {plugins : List Plugin} {wanted : List String}
    (h : start wanted (Registry.ofPlugins plugins).factories.entries = .ok instances)
    {e : String × Plugin} (he : e ∈ instances) : e.2 ∈ plugins ∧ e.2.name = e.1 := by
  obtain ⟨plugin, hplugin, heq⟩ := List.mem_map.1 (Table.mem_of_mem_ofList (mem_start h e he))
  obtain ⟨hname, hsame⟩ := Prod.mk.inj heq
  cases hsame
  exact ⟨hplugin, hname⟩

variable {plugins : List Plugin} {set : PluginSet} {framework : Framework}

theorem exists_plugin_of_mem_preScores
    (h : ofPlugins (.ofPlugins plugins) set = .ok framework) :
    ∀ x ∈ framework.preScores, ∃ plugin ∈ plugins, plugin.name = x.name ∧
      plugin.preScore = some x.run := by
  obtain ⟨instances, _, hstart, _, _, hassign, _⟩ := ofPlugins_parts h
  intro x hx
  obtain ⟨_, _, plugin, hplugin, hcast, hname⟩ := mem_assign hassign x hx
  exact ⟨plugin, (mem_of_mem_start hstart hplugin).1, hname, hcast⟩

theorem exists_plugin_of_mem_scores (h : ofPlugins (.ofPlugins plugins) set = .ok framework) :
    ∀ x ∈ framework.scores, ∃ plugin ∈ plugins, plugin.name = x.name ∧
      plugin.score = some x.run ∧ x.name ∈ set.score.map (·.name) := by
  obtain ⟨instances, scorers, hstart, _, _, _, hassign, hweigh⟩ := ofPlugins_parts h
  intro x hx
  have hscorer : ⟨x.name, x.run⟩ ∈ scorers := by
    have hmem := List.mem_map_of_mem (f := fun x ↦ (⟨x.name, x.run⟩ : Named Score)) hx
    rw [weigh_parts hweigh] at hmem
    obtain ⟨pair, hpair, heq⟩ := List.mem_map.1 hmem
    exact heq ▸ (List.of_mem_zip hpair).1
  obtain ⟨choice, hchoice, plugin, hplugin, hcast, hname⟩ := mem_assign hassign _ hscorer
  obtain ⟨hmem, hchosen⟩ := mem_of_mem_start hstart hplugin
  have hlisted : choice.name = x.name := hchosen.symm.trans hname
  exact ⟨plugin, hmem, hname, hcast, hlisted ▸ List.mem_map_of_mem hchoice⟩

theorem preScores_names {registry : Registry} (hregistry : registry.NamesPlugins)
    (h : ofPlugins registry set = .ok framework) :
    framework.preScores.map (·.name) = set.preScore.map (·.name) := by
  obtain ⟨instances, _, hstart, _, _, hassign, _⟩ := ofPlugins_parts h
  exact (assign_names (names_of_start hregistry hstart) hassign).1

end Framework

end PodPlacement
