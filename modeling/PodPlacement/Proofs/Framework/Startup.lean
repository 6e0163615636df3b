import PodPlacement.Proofs.Framework.Installation

/-!
Which plugin sets are accepted, and how the factories are run for them. A factory that is run may
change what is around it and build another plugin each time, so it matters how often that happens.
-/

namespace PodPlacement.Framework

variable {α σ : Type}

/-! ### What is accepted -/

abbrev Answers := List (String × PluginFactory)

/-- The choices are different, and each is a plugin that could be built and has something to say at
the point. -/
structure Offers (answers : Answers) (cast : Plugin → Option α) (choices : List PluginChoice) :
    Prop where
  distinct : (choices.map (·.name)).Nodup
  able : ∀ c ∈ choices, ∃ plugin, answers.lookup c.name = some (.ok plugin) ∧
    (cast plugin).isSome = true

structure Accepts (answers : Answers) (set : PluginSet) : Prop where
  preFilter : Offers answers (·.preFilter) set.preFilter
  filter : Offers answers (·.filter) set.filter
  preScore : Offers answers (·.preScore) set.preScore
  score : Offers answers (·.score) set.score
  weights : ∀ c ∈ set.score, 1 ≤ c.weight

def built (instances : List (String × Plugin)) : Answers := instances.map fun e ↦ (e.1, .ok e.2)

variable {answers answers' : Answers} {cast : Plugin → Option α} {choices : List PluginChoice}
  {instances : List (String × Plugin)} {set : PluginSet} {name : String} {plugin : Plugin}

theorem lookup_built :
    (built instances).lookup name = some (.ok plugin) ↔ instances.lookup name = some plugin := by
  have hmap : (built instances).lookup name = (instances.lookup name).map Except.ok :=
    Table.lookup_map (fun _ p ↦ Except.ok p) name instances
  simp [hmap]

theorem exists_built {answers : Answers} (h : ∀ e ∈ answers, ∃ plugin, e.2 = .ok plugin) :
    ∃ instances, answers = built instances := by
  induction answers with
  | nil => exact ⟨[], rfl⟩
  | cons e answers ih =>
    obtain ⟨plugin, hplugin⟩ := h e (List.mem_cons_self ..)
    obtain ⟨instances, rfl⟩ := ih fun e he ↦ h e (List.mem_cons_of_mem _ he)
    exact ⟨(e.1, plugin) :: instances, congrArg (· :: _) (Prod.ext rfl hplugin)⟩

theorem exists_forall₂ {β γ : Type} {R : β → γ → Prop} {xs : List β} (h : ∀ x ∈ xs, ∃ y, R x y) :
    ∃ ys, List.Forall₂ R xs ys := by
  induction xs with
  | nil => exact ⟨[], .nil⟩
  | cons x xs ih =>
    obtain ⟨y, hy⟩ := h x (List.mem_cons_self ..)
    obtain ⟨ys, hys⟩ := ih fun x hx ↦ h x (List.mem_cons_of_mem _ hx)
    exact ⟨y :: ys, .cons hy hys⟩

theorem exists_of_forall₂ {β γ : Type} {R : β → γ → Prop} {xs : List β} {ys : List γ}
    (h : List.Forall₂ R xs ys) : ∀ x ∈ xs, ∃ y, R x y := by
  induction h with
  | nil => exact nofun
  | cons hxy _ ih => exact List.forall_mem_cons.2 ⟨⟨_, hxy⟩, ih⟩

theorem exists_meets_iff {choice : PluginChoice} : (∃ x, Meets instances cast choice x) ↔
    ∃ plugin, (built instances).lookup choice.name = some (.ok plugin) ∧
      (cast plugin).isSome = true := by
  simp only [lookup_built, Option.isSome_iff_exists]
  constructor
  · rintro ⟨x, plugin, hlookup, _, hcast⟩
    exact ⟨plugin, hlookup, x.run, hcast⟩
  · rintro ⟨plugin, hlookup, run, hcast⟩
    exact ⟨⟨plugin.name, run⟩, plugin, hlookup, rfl, hcast⟩

theorem Listed.offers {named : List (Named α)} (h : Listed instances cast choices named) :
    Offers (built instances) cast choices :=
  ⟨h.1, fun c hc ↦ exists_meets_iff.1 (exists_of_forall₂ h.2 c hc)⟩

theorem Offers.listed (h : Offers (built instances) cast choices) :
    ∃ named, Listed instances cast choices named := by
  obtain ⟨named, hnamed⟩ := exists_forall₂ fun c hc ↦ exists_meets_iff.2 (h.able c hc)
  exact ⟨named, h.distinct, hnamed⟩

theorem Installs.accepts {framework : Framework} (h : Installs instances set framework) :
    Accepts (built instances) set where
  preFilter := h.preFilters.offers
  filter := h.filters.offers
  preScore := h.preScores.offers
  score := Listed.offers ⟨h.distinct, forall₂_meets_of_weighs h.scores⟩
  weights := by
    intro c hc
    obtain ⟨_, hweighs⟩ := exists_of_forall₂ h.scores c hc
    exact hweighs.positive

theorem Accepts.installs (h : Accepts (built instances) set) :
    ∃ framework, Installs instances set framework := by
  obtain ⟨preFilters, hpreFilters⟩ := h.preFilter.listed
  obtain ⟨filters, hfilters⟩ := h.filter.listed
  obtain ⟨preScores, hpreScores⟩ := h.preScore.listed
  have hscore : ∀ c ∈ set.score, ∃ x, Weighs instances c x := by
    intro c hc
    obtain ⟨⟨name, run⟩, hmeets⟩ := exists_meets_iff.2 (h.score.able c hc)
    exact ⟨⟨name, c.weight, run⟩, h.weights c hc, rfl, hmeets⟩
  obtain ⟨scores, hscores⟩ := exists_forall₂ hscore
  exact ⟨⟨preFilters, filters, preScores, scores, instances.map (·.1)⟩, hpreFilters, hfilters,
    hpreScores, h.score.distinct, hscores, rfl⟩

theorem install_ok_iff :
    (∃ framework, install set instances = .ok framework) ↔ Accepts (built instances) set := by
  simp only [install_eq_ok_iff]
  exact ⟨fun ⟨_, h⟩ ↦ h.accepts, Accepts.installs⟩

/-! ### Only the names in the set matter -/

theorem mem_names_of_mem {c : PluginChoice}
    (h : c ∈ set.preFilter ∨ c ∈ set.filter ∨ c ∈ set.preScore ∨ c ∈ set.score) :
    c.name ∈ set.names := by
  apply List.mem_map_of_mem
  simpa only [List.mem_append, or_assoc] using h

theorem Accepts.built (h : Accepts answers set) (hname : name ∈ set.names) :
    ∃ plugin, answers.lookup name = some (.ok plugin) := by
  obtain ⟨c, hc, rfl⟩ := List.mem_map.1 hname
  simp only [List.mem_append, or_assoc] at hc
  rcases hc with hc | hc | hc | hc
  · exact (h.preFilter.able c hc).imp fun _ ↦ And.left
  · exact (h.filter.able c hc).imp fun _ ↦ And.left
  · exact (h.preScore.able c hc).imp fun _ ↦ And.left
  · exact (h.score.able c hc).imp fun _ ↦ And.left

theorem Offers.congr (h : Offers answers cast choices)
    (hsame : ∀ c ∈ choices, answers'.lookup c.name = answers.lookup c.name) :
    Offers answers' cast choices :=
  ⟨h.distinct, fun c hc ↦ by
    rw [hsame c hc]
    exact h.able c hc⟩

theorem Accepts.congr (h : Accepts answers set)
    (hsame : ∀ name ∈ set.names, answers'.lookup name = answers.lookup name) :
    Accepts answers' set where
  preFilter := h.preFilter.congr fun _ hc ↦ hsame _ (mem_names_of_mem (.inl hc))
  filter := h.filter.congr fun _ hc ↦ hsame _ (mem_names_of_mem (.inr (.inl hc)))
  preScore := h.preScore.congr fun _ hc ↦ hsame _ (mem_names_of_mem (.inr (.inr (.inl hc))))
  score := h.score.congr fun _ hc ↦ hsame _ (mem_names_of_mem (.inr (.inr (.inr hc))))
  weights := h.weights

/-! ### Starting -/

theorem start_eq_ok_iff {wanted : List String} : start wanted answers = .ok instances ↔
    answers.filter (wanted.contains ·.1) = built instances := by
  induction answers generalizing instances with
  | nil => cases instances <;> simp [start, built]
  | cons e answers ih =>
    obtain ⟨name, factory⟩ := e
    by_cases hwanted : wanted.contains name = true
    · simp only [List.filter_cons, hwanted, if_true]
      cases factory with
      | error cause =>
        refine iff_of_false ?_ ?_
        · intro h
          simp only [start, hwanted, if_true] at h
          cases h
        · cases instances <;> simp [built]
      | ok plugin =>
        simp only [start, hwanted, if_true]
        constructor
        · intro h
          obtain ⟨others, hothers, rfl⟩ := exists_of_map_eq_ok h
          rw [ih.1 hothers]
          rfl
        · intro h
          cases instances with
          | nil => cases h
          | cons e' others =>
            obtain ⟨hhead, htail⟩ := List.cons.inj h
            cases hhead
            rw [ih.2 htail]
            rfl
    · simp only [List.filter_cons, start, hwanted, Bool.false_eq_true, if_false, ih]

variable {registry : Registry}

theorem lookup_filter_names (hname : name ∈ set.names) :
    (registry.factories.entries.filter (set.names.contains ·.1)).lookup name =
      registry.factories.entries.lookup name := by
  rw [Table.lookup_filter (p := fun name _ ↦ set.names.contains name) registry.factories.ascending]
  cases registry.factories.entries.lookup name <;> simp [hname]

theorem ofPlugins_ok_iff :
    (∃ framework, ofPlugins registry set = .ok framework) ↔
      Accepts registry.factories.entries set := by
  simp only [ofPlugins_eq_ok_iff, start_eq_ok_iff]
  constructor
  · rintro ⟨framework, instances, hstart, hinstalls⟩
    refine hinstalls.accepts.congr fun name hname ↦ ?_
    rw [← hstart, lookup_filter_names hname]
  · intro h
    have hbuilt : ∀ e ∈ registry.factories.entries.filter (set.names.contains ·.1),
        ∃ plugin, e.2 = .ok plugin := by
      rintro ⟨name, factory⟩ he
      obtain ⟨hmem, hname⟩ := List.mem_filter.1 he
      obtain ⟨plugin, hplugin⟩ := h.built (List.contains_iff_mem.1 hname)
      have hfactory := (Table.lookup_eq_some_iff registry.factories.ascending).2 hmem
      exact ⟨plugin, Option.some.inj (hfactory.symm.trans hplugin)⟩
    obtain ⟨instances, hstart⟩ := exists_built hbuilt
    have haccepts : Accepts (Framework.built instances) set := by
      refine h.congr fun name hname ↦ ?_
      rw [← hstart, lookup_filter_names hname]
    obtain ⟨framework, hframework⟩ := haccepts.installs
    exact ⟨framework, instances, hstart, hframework⟩

/-! ### Running the factories -/

/-- A factory at work. It may look at what is around it and change that. -/
abbrev Workshop (σ : Type) := σ → PluginFactory × σ

def startIn (wanted : List String) :
    List (String × Workshop σ) → σ → Except SchedulingError (List (String × Plugin)) × σ
  | [], s => (.ok [], s)
  | (name, make) :: rest, s =>
    if wanted.contains name then
      match make s with
      | (.ok p, s') =>
        let (others, s'') := startIn wanted rest s'
        (others.map ((name, p) :: ·), s'')
      | (.error e, s') =>
        (.error (.framework ("initializing plugin " ++ name ++ ": " ++ e.message)
          "Check the plugin's requirements on the framework handle"), s')
    else startIn wanted rest s

def ofWorkshops (workshops : Table (Workshop σ)) (set : PluginSet) (s : σ) :
    Except SchedulingError Framework × σ :=
  let (instances, s') := startIn set.names workshops.entries s
  (instances >>= install set, s')

def steady (registry : Registry) : Table (Workshop σ) :=
  registry.factories.map fun _ factory s ↦ (factory, s)

def logged (name : String) (make : Workshop σ) : Workshop (σ × Answers) :=
  fun (s, runs) ↦
    let (answer, s') := make s
    (answer, s', runs ++ [(name, answer)])

variable {wanted : List String} {workshops : Table (Workshop σ)} {s : σ}

theorem startIn_steady (wanted : List String) (answers : Answers) (s : σ) :
    startIn wanted (answers.map fun e ↦ (e.1, fun s ↦ (e.2, s))) s = (start wanted answers, s) := by
  induction answers with
  | nil => rfl
  | cons e answers ih =>
    obtain ⟨name, factory⟩ := e
    simp only [List.map_cons, startIn, start]
    split
    · cases factory with
      | error cause => rfl
      | ok plugin => simp only [ih]
    · exact ih

theorem ofWorkshops_steady (registry : Registry) (set : PluginSet) (s : σ) :
    ofWorkshops (steady registry) set s = (ofPlugins registry set, s) := by
  simp only [ofWorkshops, steady, Table.map, startIn_steady, ofPlugins_eq]

/-- Those of the names that are wanted are run one after another, and a failure ends that. -/
theorem startIn_logged (wanted : List String) (es : List (String × Workshop σ)) (s : σ)
    (runs : Answers) :
    let run := startIn wanted (es.map fun e ↦ (e.1, logged e.1 e.2)) (s, runs)
    run.1 = (startIn wanted es s).1 ∧ ∃ new, run.2 = ((startIn wanted es s).2, runs ++ new) ∧
      new.map (·.1) <+: (es.map (·.1)).filter (wanted.contains ·) ∧
      ((∃ instances, run.1 = .ok instances ∧ new = built instances ∧
          new.map (·.1) = (es.map (·.1)).filter (wanted.contains ·)) ∨
        ∃ e cause name, run.1 = .error e ∧ (name, .error cause) ∈ new) := by
  induction es generalizing s runs with
  | nil => exact ⟨rfl, [], by simp [startIn], List.prefix_rfl, .inl ⟨[], rfl, rfl, rfl⟩⟩
  | cons e es ih =>
    obtain ⟨name, make⟩ := e
    by_cases hwanted : wanted.contains name = true
    · simp only [List.map_cons, List.filter_cons, startIn, hwanted, if_true, logged]
      cases hmake : make s with
      | mk answer s' =>
        cases answer with
        | error cause =>
          refine ⟨rfl, [(name, .error cause)], rfl, ?_, .inr ⟨_, cause, name, rfl, ?_⟩⟩
          · simp
          · simp
        | ok plugin =>
          obtain ⟨hsame, new, hnew, hprefix, hout⟩ := ih s' (runs ++ [(name, .ok plugin)])
          refine ⟨by simp only [hsame], (name, .ok plugin) :: new, by simp [hnew], ?_, ?_⟩
          · simpa using hprefix
          · rcases hout with ⟨instances, hok, rfl, hall⟩ | ⟨e, cause, name', herror, hmem⟩
            · refine .inl ⟨(name, plugin) :: instances, ?_, rfl, ?_⟩
              · simp only [hok]
                rfl
              · simpa using hall
            · refine .inr ⟨e, cause, name', ?_, List.mem_cons_of_mem _ hmem⟩
              simp only [herror]
              rfl
    · simpa only [List.map_cons, List.filter_cons, startIn, hwanted, Bool.false_eq_true, if_false]
        using ih s runs

theorem Accepts.no_error {runs : Answers} {cause : SchedulingError} (h : Accepts runs set)
    (hruns : runs.map (·.1) <+: workshops.keys.filter (set.names.contains ·)) :
    (name, .error cause) ∉ runs := by
  intro hmem
  have hkeys : workshops.keys.Pairwise (· < ·) := List.pairwise_map.2 workshops.ascending
  have hascending : runs.Pairwise (fun a b ↦ a.1 < b.1) :=
    List.pairwise_map.1 ((hkeys.filter _).sublist hruns.sublist)
  have hname : name ∈ set.names := by
    have hwanted := hruns.subset (List.mem_map_of_mem hmem)
    simpa using (List.mem_filter.1 hwanted).2
  obtain ⟨plugin, hplugin⟩ := h.built hname
  rw [(Table.lookup_eq_some_iff hascending).2 hmem] at hplugin
  cases hplugin

/-- A set is accepted if the plugins it names can be built, none of them is chosen twice at one
point, each has something to say wherever it is chosen, and no weight is below one. Then every
point has the chosen plugins in their order, all from the same instances. The factories of the names
in the set are run one after another, each once; all of them have been run if the set is accepted,
and others never are. -/
theorem accepted_and_installed (set : PluginSet) :
    (∀ registry : Registry,
      ((∃ framework, ofPlugins registry set = .ok framework) ↔
        Accepts registry.factories.entries set) ∧
      ∀ framework, ofPlugins registry set = .ok framework → ∃ instances,
        registry.factories.entries.filter (set.names.contains ·.1) = built instances ∧
        Installs instances set framework) ∧
    (∀ (σ : Type) (registry : Registry) (s : σ),
      ofWorkshops (steady registry) set s = (ofPlugins registry set, s)) ∧
    ∀ (σ : Type) (workshops : Table (Workshop σ)) (s : σ),
      let run := ofWorkshops (workshops.map logged) set (s, [])
      let runs := run.2.2
      (run.1, run.2.1) = ofWorkshops workshops set s ∧
      runs.map (·.1) <+: workshops.keys.filter (set.names.contains ·) ∧
      (runs.map (·.1)).Nodup ∧
      ((∃ framework, run.1 = .ok framework) ↔ Accepts runs set) ∧
      ∀ framework, run.1 = .ok framework → ∃ instances, runs = built instances ∧
        runs.map (·.1) = workshops.keys.filter (set.names.contains ·) ∧
        Installs instances set framework := by
  refine ⟨fun registry ↦ ⟨ofPlugins_ok_iff, fun framework h ↦ ?_⟩,
    fun σ registry s ↦ ofWorkshops_steady registry set s, fun σ workshops s ↦ ?_⟩
  · obtain ⟨instances, hstart, hinstalls⟩ := ofPlugins_eq_ok_iff.1 h
    exact ⟨instances, start_eq_ok_iff.1 hstart, hinstalls⟩
  intro run runs
  obtain ⟨hsame, new, hnew, hprefix, hout⟩ :=
    startIn_logged set.names workshops.entries s []
  have hruns : runs = new := congrArg (·.2) hnew
  have hstate : run.2.1 = (ofWorkshops workshops set s).2 := congrArg (·.1) hnew
  rw [hruns]
  refine ⟨Prod.ext (congrArg (· >>= install set) hsame) hstate, hprefix,
    (workshops.keys_nodup.filter _).sublist hprefix.sublist, ?_⟩
  rcases hout with ⟨instances, hok, hbuilt, hall⟩ | ⟨e, cause, name, herror, hmem⟩
  · have hrun : run.1 = install set instances := congrArg (· >>= install set) hok
    rw [hrun, hbuilt]
    refine ⟨install_ok_iff, fun framework h ↦ ⟨instances, rfl, ?_, install_eq_ok_iff.1 h⟩⟩
    rw [← hbuilt]
    exact hall
  · have hrun : run.1 = .error e := congrArg (· >>= install set) herror
    rw [hrun]
    refine ⟨iff_of_false nofun fun haccepts ↦ ?_, nofun⟩
    exact haccepts.no_error hprefix hmem

/-- Two factories that take plugins from one stock: one plugin is taken, and it both filters and
scores. -/
theorem accepted_and_installed_stock :
    ∃ (workshops : Table (Workshop (List Plugin))) (set : PluginSet) (first second : Plugin),
      workshops.keys = ["unused", "used"] ∧ set.names = ["used", "used"] ∧
      first.name ≠ second.name ∧
      let run := ofWorkshops (workshops.map logged) set ([first, second], [])
      run.2.1 = [second] ∧ ∃ framework, run.1 = .ok framework ∧
        framework.filters.map (·.name) = [first.name] ∧
        framework.scores.map (fun x ↦ (x.name, x.weight)) = [(first.name, 3)] := by
  let take : Workshop (List Plugin) := fun
    | [] => (.error (.framework "out of stock" ""), [])
    | p :: stock => (.ok p, stock)
  let workshops : Table (Workshop (List Plugin)) :=
    ⟨[("unused", take), ("used", take)], List.pairwise_pair.2 (by decide +kernel)⟩
  let set : PluginSet := { filter := [⟨"used", 1⟩], score := [⟨"used", 3⟩] }
  let first : Plugin :=
    { name := "first", filter := some fun _ _ _ _ ↦ .success, score := some fun _ _ _ _ ↦ .ok 1 }
  let second : Plugin := { name := "second" }
  obtain ⟨_, _, hrun⟩ := accepted_and_installed set
  obtain ⟨_, _, _, haccepted, hinstalled⟩ := hrun _ workshops [first, second]
  have haccepts : Accepts [("used", .ok first)] set := by
    refine ⟨⟨.nil, nofun⟩, ⟨List.nodup_singleton _, ?_⟩, ⟨.nil, nofun⟩,
      ⟨List.nodup_singleton _, ?_⟩, by decide⟩
    all_goals exact List.forall_mem_singleton.2 ⟨first, rfl, rfl⟩
  obtain ⟨framework, hframework⟩ := haccepted.2 haccepts
  obtain ⟨instances, hruns, _, hinstalls⟩ := hinstalled framework hframework
  have hused : instances.lookup "used" = some first := lookup_built.1 (by rw [← hruns]; rfl)
  refine ⟨workshops, set, first, second, rfl, rfl, by decide, rfl, framework, hframework, ?_, ?_⟩
  · obtain ⟨x, _, ⟨p, hp, hname, _⟩, hnil, heq⟩ :=
      List.forall₂_cons_left_iff.1 hinstalls.filters.2
    cases hnil
    cases hused.symm.trans hp
    rw [heq]
    exact congrArg (fun name ↦ [name]) hname.symm
  · obtain ⟨x, _, ⟨_, hweight, p, hp, hname, _⟩, hnil, heq⟩ :=
      List.forall₂_cons_left_iff.1 hinstalls.scores
    cases hnil
    cases hused.symm.trans hp
    rw [heq]
    exact congrArg (fun e ↦ [e]) (Prod.ext hname.symm hweight)

end PodPlacement.Framework
