import Mathlib.Data.List.Nodup
import PodPlacement.Proofs.Scheduling.Verdicts
import PodPlacement.Proofs.Table

/-!
What the filters together say about a node. The table of their verdicts depends on the order of the
filters as soon as one of them fails, because the first failure stands alone; whether the node fits,
and whether it would once a pod is gone, does not.
-/

namespace PodPlacement

def Status.isFailure (s : Status) : Bool := !s.isSuccess && !s.isUnschedulable

theorem Status.isUnschedulable_of_not_isFailure {s : Status} (hfail : s.isFailure = false)
    (hok : s.isSuccess = false) : s.isUnschedulable = true := by
  simpa [isFailure, hok] using hfail

theorem Status.isUnschedulable_of_isFailure {s : Status} (h : s.isFailure = true) :
    s.isUnschedulable = false := by
  rw [isFailure, Bool.and_eq_true] at h
  simpa using h.2

theorem Status.isSuccess_of_isFailure {s : Status} (h : s.isFailure = true) :
    s.isSuccess = false := by
  rw [isFailure, Bool.and_eq_true] at h
  simpa using h.1

theorem Status.isSuccess_of_isUnschedulable {s : Status} (h : s.isUnschedulable = true) :
    s.isSuccess = false := by
  cases s with
  | mk code reasons => cases code <;> first | rfl | cases h

namespace Framework

/-! ### Collecting -/

section Collect

variable {describe : String → Status → String}

theorem collectVerdicts_of_verdicts {vs : List (String × Status)} {found : Table Status}
    (h : ∀ v ∈ vs, v.2.isFailure = false) :
    collectVerdicts describe vs found =
      (vs.filter (!·.2.isSuccess)).foldl (fun t v ↦ t.insert v.1 v.2) found := by
  induction vs generalizing found with
  | nil => rfl
  | cons v rest ih =>
    obtain ⟨hv, hrest⟩ := List.forall_mem_cons.1 h
    obtain ⟨name, status⟩ := v
    by_cases hok : status.isSuccess = true
    · simp only [collectVerdicts, hok, if_true, ih hrest, Bool.not_true, List.filter_cons,
        Bool.false_eq_true, if_false]
    · have hno : status.isSuccess = false := Bool.eq_false_iff.2 hok
      have hverdict : status.isUnschedulable = true :=
        Status.isUnschedulable_of_not_isFailure hv hno
      simp only [collectVerdicts, hno, hverdict, if_true, ih hrest, Bool.not_false,
        List.filter_cons, Bool.false_eq_true, if_false, List.foldl_cons]

theorem collectVerdicts_of_failure {before after : List (String × Status)} {v : String × Status}
    {found : Table Status} (hbefore : ∀ u ∈ before, u.2.isFailure = false)
    (hv : v.2.isFailure = true) :
    (collectVerdicts describe (before ++ v :: after) found).entries =
      [(v.1, .error (describe v.1 v.2))] := by
  induction before generalizing found with
  | nil =>
    simp only [List.nil_append, collectVerdicts, Status.isSuccess_of_isFailure hv,
      Status.isUnschedulable_of_isFailure hv, Bool.false_eq_true, if_false]
    rfl
  | cons u rest ih =>
    obtain ⟨hu, hrest⟩ := List.forall_mem_cons.1 hbefore
    by_cases hok : u.2.isSuccess = true
    · simpa only [List.cons_append, collectVerdicts, hok, if_true] using ih hrest
    · have hno : u.2.isSuccess = false := Bool.eq_false_iff.2 hok
      have hverdict : u.2.isUnschedulable = true := Status.isUnschedulable_of_not_isFailure hu hno
      simpa only [List.cons_append, collectVerdicts, hno, hverdict, if_true, Bool.false_eq_true,
        if_false] using ih hrest

theorem isEmpty_collectVerdicts {vs : List (String × Status)} {found : Table Status} :
    (collectVerdicts describe vs found).isEmpty = true ↔
      found.isEmpty = true ∧ ∀ v ∈ vs, v.2.isSuccess = true := by
  induction vs generalizing found with
  | nil => simp [collectVerdicts]
  | cons v rest ih =>
    rw [List.forall_mem_cons, collectVerdicts]
    split
    · next hok => simp only [ih, hok, true_and]
    · next hok =>
      split
      · simp [ih, Table.isEmpty_insert, hok]
      · simp [Table.isEmpty_insert, hok]

end Collect

/-! ### Filters -/

section Filters

variable {plugins : List (Named Filter)} {env : Surroundings} {notes : CycleState} {p : Pod}
  {n : NodeInfo}

theorem runFilters_of_failure {before after : List (Named Filter)} {first : Named Filter}
    (hbefore : ∀ plugin ∈ before, (plugin.run env notes p n).isFailure = false)
    (hfirst : (first.run env notes p n).isFailure = true) :
    (runFilters (before ++ first :: after) env notes p n).entries =
      [(first.name, .error ("running " ++ first.name ++ " filter plugin for pod " ++ p.describe ++
        " on node " ++ n.name ++ ": " ++ (first.run env notes p n).message))] := by
  rw [runFilters, List.map_append, List.map_cons]
  exact collectVerdicts_of_failure (List.forall_mem_map.2 hbefore) hfirst

theorem get?_runFilters_iff (hnames : (plugins.map (·.name)).Nodup)
    (hverdicts : ∀ plugin ∈ plugins, (plugin.run env notes p n).isFailure = false) {name : String}
    {status : Status} :
    (runFilters plugins env notes p n).get? name = some status ↔
      ∃ plugin ∈ plugins, plugin.name = name ∧ plugin.run env notes p n = status ∧
        status.isSuccess = false := by
  have hdistinct : (((plugins.map fun plugin ↦ (plugin.name, plugin.run env notes p n)).filter
      (!·.2.isSuccess)).map (·.1)).Nodup := by
    refine (List.filter_sublist.map _).nodup ?_
    rwa [List.map_map]
  rw [runFilters, collectVerdicts_of_verdicts (List.forall_mem_map.2 hverdicts),
    Table.get?_eq_some_iff]
  refine (Table.entries_ofList_perm hdistinct).mem_iff.trans ?_
  rw [List.mem_filter, List.mem_map]
  constructor
  · rintro ⟨⟨plugin, hmem, heq⟩, hok⟩
    cases heq
    exact ⟨plugin, hmem, rfl, rfl, by simpa using hok⟩
  · rintro ⟨plugin, hmem, rfl, rfl, hok⟩
    exact ⟨⟨plugin, hmem, rfl⟩, by simpa using hok⟩

/-- Either no filter fails, or there is one that fails before any other does. -/
theorem no_failure_or_first (plugins : List (Named Filter)) (env : Surroundings)
    (notes : CycleState) (p : Pod) (n : NodeInfo) :
    (∀ plugin ∈ plugins, (plugin.run env notes p n).isFailure = false) ∨
      ∃ before first after, plugins = before ++ first :: after ∧
        (∀ plugin ∈ before, (plugin.run env notes p n).isFailure = false) ∧
        (first.run env notes p n).isFailure = true := by
  rcases hfind : plugins.find? (fun plugin ↦ (plugin.run env notes p n).isFailure) with _ | first
  · exact .inl fun plugin hmem ↦ Bool.eq_false_iff.2 (List.find?_eq_none.1 hfind plugin hmem)
  · obtain ⟨hfirst, before, after, hsplit, hbefore⟩ := List.find?_eq_some_iff_append.1 hfind
    exact .inr ⟨before, first, after, hsplit, fun plugin hmem ↦ by simpa using hbefore plugin hmem,
      hfirst⟩

end Filters

end Framework

namespace Scheduler

open Framework

variable {plugins : List (Named Filter)} {env : Surroundings} {notes : CycleState} {p : Pod}
  {n : NodeInfo}

/-- Of the filters `NodeResourcesFit` and no other has something against the node, and it is a
verdict. -/
def OnlyResourcesRefuse (plugins : List (Named Filter)) (env : Surroundings) (notes : CycleState)
    (p : Pod) (n : NodeInfo) : Prop :=
  ∃ plugin ∈ plugins, plugin.name = Plugins.NodeResourcesFit.name ∧
    (plugin.run env notes p n).isUnschedulable = true ∧
    ∀ other ∈ plugins, other.name ≠ Plugins.NodeResourcesFit.name →
      (other.run env notes p n).isSuccess = true

theorem fits_runFilters_iff :
    fits (runFilters plugins env notes p n) = true ↔
      ∀ plugin ∈ plugins, (plugin.run env notes p n).isSuccess = true := by
  rw [fits, runFilters, isEmpty_collectVerdicts, List.forall_mem_map]
  exact and_iff_right rfl

theorem onlyResourcesRefuse_perm {plugins' : List (Named Filter)} (h : plugins.Perm plugins') :
    OnlyResourcesRefuse plugins env notes p n ↔ OnlyResourcesRefuse plugins' env notes p n := by
  simp only [OnlyResourcesRefuse, h.mem_iff]

theorem onlyResourcesRefuse_of_entries (hnames : (plugins.map (·.name)).Nodup) {status : Status}
    (hentries : (runFilters plugins env notes p n).entries =
      [(Plugins.NodeResourcesFit.name, status)]) (hverdict : status.isUnschedulable = true) :
    OnlyResourcesRefuse plugins env notes p n := by
  rcases no_failure_or_first plugins env notes p n with
    hnone | ⟨before, first, after, rfl, hbefore, hfirst⟩
  · have hentry : ∀ name status', (name, status') = (Plugins.NodeResourcesFit.name, status) ↔
        ∃ plugin ∈ plugins, plugin.name = name ∧ plugin.run env notes p n = status' ∧
          status'.isSuccess = false := by
      intro name status'
      rw [← List.mem_singleton, ← hentries, ← Table.get?_eq_some_iff,
        get?_runFilters_iff hnames hnone]
    obtain ⟨plugin, hmem, hname, rfl, -⟩ := (hentry _ status).1 rfl
    refine ⟨plugin, hmem, hname, hverdict, fun other hother hne ↦ ?_⟩
    by_contra hok
    have hbound := (hentry other.name _).2 ⟨other, hother, rfl, rfl, Bool.eq_false_iff.2 hok⟩
    exact hne (congrArg Prod.fst hbound)
  · -- A failure is entered as an error, which is no verdict.
    rw [runFilters_of_failure hbefore hfirst] at hentries
    obtain ⟨-, rfl⟩ := Prod.mk.inj (List.singleton_inj.1 hentries)
    cases hverdict

theorem entries_of_onlyResourcesRefuse (hnames : (plugins.map (·.name)).Nodup)
    (h : OnlyResourcesRefuse plugins env notes p n) :
    ∃ status, (runFilters plugins env notes p n).entries =
      [(Plugins.NodeResourcesFit.name, status)] ∧ status.isUnschedulable = true := by
  obtain ⟨plugin, hmem, hname, hverdict, hothers⟩ := h
  -- Distinct names make the plugin of that name the only one.
  have hunique : ∀ other ∈ plugins, other.name = Plugins.NodeResourcesFit.name → other = plugin :=
    fun other hother heq ↦ List.inj_on_of_nodup_map hnames hother hmem (heq.trans hname.symm)
  have hnone : ∀ other ∈ plugins, (other.run env notes p n).isFailure = false := by
    intro other hother
    by_cases heq : other.name = Plugins.NodeResourcesFit.name
    · rw [hunique other hother heq, Status.isFailure, hverdict, Bool.not_true, Bool.and_false]
    · rw [Status.isFailure, hothers other hother heq, Bool.not_true, Bool.false_and]
  have htable : runFilters plugins env notes p n =
      Table.empty.insert Plugins.NodeResourcesFit.name (plugin.run env notes p n) := by
    refine Table.ext_get? fun name ↦ Option.ext fun status ↦ ?_
    rw [get?_runFilters_iff hnames hnone, Table.get?_insert]
    constructor
    · rintro ⟨other, hother, rfl, rfl, hno⟩
      have heq : other.name = Plugins.NodeResourcesFit.name := by
        by_contra hne
        exact Bool.eq_false_iff.1 hno (hothers other hother hne)
      rw [if_pos heq, hunique other hother heq]
    · intro hget
      split at hget
      · next heq =>
        cases hget
        exact ⟨plugin, hmem, hname.trans heq.symm, rfl,
          Status.isSuccess_of_isUnschedulable hverdict⟩
      · cases hget
  exact ⟨_, by rw [htable]; rfl, hverdict⟩

theorem isPreemptionCandidate_runFilters_iff (hnames : (plugins.map (·.name)).Nodup) :
    isPreemptionCandidate (runFilters plugins env notes p n) = true ↔
      OnlyResourcesRefuse plugins env notes p n := by
  rw [isPreemptionCandidate_iff]
  constructor
  · rintro ⟨status, hentries, hverdict⟩
    exact onlyResourcesRefuse_of_entries hnames hentries hverdict
  · exact entries_of_onlyResourcesRefuse hnames

/-- The first filter that fails stands alone in the table, and without one the table holds whatever
is no success. Whether a node fits, and whether it is a candidate for an eviction, can be read off
the filters in any order, and more filters never make a node fit. -/
theorem runFilters_aggregates {plugins : List (Named Filter)}
    (hnames : (plugins.map (·.name)).Nodup) (env : Surroundings) (notes : CycleState) (p : Pod)
    (n : NodeInfo) :
    ((∃ plugin ∈ plugins, (plugin.run env notes p n).isFailure = true) →
      ∃ before first after, plugins = before ++ first :: after ∧
        (∀ plugin ∈ before, (plugin.run env notes p n).isFailure = false) ∧
        (first.run env notes p n).isFailure = true ∧
        (runFilters plugins env notes p n).entries =
          [(first.name, .error ("running " ++ first.name ++ " filter plugin for pod " ++
            p.describe ++ " on node " ++ n.name ++ ": " ++
            (first.run env notes p n).message))]) ∧
      ((∀ plugin ∈ plugins, (plugin.run env notes p n).isFailure = false) →
        ∀ name status, (runFilters plugins env notes p n).get? name = some status ↔
          ∃ plugin ∈ plugins, plugin.name = name ∧ plugin.run env notes p n = status ∧
            status.isSuccess = false) ∧
      (fits (runFilters plugins env notes p n) = true ↔
        ∀ plugin ∈ plugins, (plugin.run env notes p n).isSuccess = true) ∧
      (isPreemptionCandidate (runFilters plugins env notes p n) = true ↔
        OnlyResourcesRefuse plugins env notes p n) ∧
      (∀ plugins', plugins.Perm plugins' →
        fits (runFilters plugins' env notes p n) = fits (runFilters plugins env notes p n) ∧
        isPreemptionCandidate (runFilters plugins' env notes p n) =
          isPreemptionCandidate (runFilters plugins env notes p n)) ∧
      ∀ more, plugins ⊆ more → fits (runFilters plugins env notes p n) = false →
        fits (runFilters more env notes p n) = false := by
  refine ⟨?failure, ?verdicts, fits_runFilters_iff, isPreemptionCandidate_runFilters_iff hnames,
    ?perm, ?more⟩
  case failure =>
    rintro ⟨plugin, hmem, hfail⟩
    rcases no_failure_or_first plugins env notes p n with
      hnone | ⟨before, first, after, rfl, hbefore, hfirst⟩
    · rw [hnone plugin hmem] at hfail
      cases hfail
    · exact ⟨before, first, after, rfl, hbefore, hfirst, runFilters_of_failure hbefore hfirst⟩
  case verdicts => exact fun hverdicts name status ↦ get?_runFilters_iff hnames hverdicts
  case perm =>
    intro plugins' hperm
    have hnames' : (plugins'.map (·.name)).Nodup := (hperm.map _).nodup_iff.1 hnames
    constructor
    · rw [Bool.eq_iff_iff, fits_runFilters_iff, fits_runFilters_iff]
      simp only [hperm.mem_iff]
    · rw [Bool.eq_iff_iff, isPreemptionCandidate_runFilters_iff hnames',
        isPreemptionCandidate_runFilters_iff hnames, onlyResourcesRefuse_perm hperm]
  case more =>
    intro more hsub
    rw [Bool.eq_false_iff, Bool.eq_false_iff, Ne, Ne, fits_runFilters_iff, fits_runFilters_iff]
    exact fun hrefused hall ↦ hrefused fun plugin hmem ↦ hall plugin (hsub hmem)

namespace Mixed

def constant (name : String) (status : Status) : Named Filter := ⟨name, fun _ _ _ _ ↦ status⟩

def filters : List (Named Filter) :=
  [constant "NodeName" (.unschedulable "other node"),
    constant Plugins.NodeResourcesFit.name (.error "no note"),
    constant "TaintToleration" (.unresolvable "taint")]

end Mixed

theorem runFilters_aggregates_mixed :
    (Mixed.filters.map (·.name)).Nodup ∧
      (runFilters Mixed.filters {} ⟨.empty, ∅⟩ default default).keys =
        [Plugins.NodeResourcesFit.name] ∧
      fits (runFilters Mixed.filters {} ⟨.empty, ∅⟩ default default) = false ∧
      isPreemptionCandidate (runFilters Mixed.filters.reverse {} ⟨.empty, ∅⟩ default default) =
        false := by
  have hnames : (Mixed.filters.map (·.name)).Nodup := by decide
  obtain ⟨hfailure, -, hfits, hcandidate, hperm, -⟩ :=
    runFilters_aggregates hnames {} ⟨.empty, ∅⟩ default default
  refine ⟨hnames, ?_, ?_, ?_⟩
  · obtain ⟨before, first, after, hsplit, -, hfirst, hentries⟩ :=
      hfailure ⟨_, .tail _ (.head _), rfl⟩
    have hmem : first ∈ Mixed.filters := by rw [hsplit]; simp
    rw [Table.keys, hentries]
    simp only [Mixed.filters, List.mem_cons, List.not_mem_nil, or_false] at hmem
    rcases hmem with rfl | rfl | rfl
    · cases hfirst
    · rfl
    · cases hfirst
  · rw [Bool.eq_false_iff, Ne, hfits]
    intro hall
    cases hall _ (.head _)
  · rw [(hperm _ (List.reverse_perm _).symm).2, Bool.eq_false_iff, Ne, hcandidate]
    rintro ⟨plugin, hmem, hname, hverdict, -⟩
    simp only [Mixed.filters, List.mem_cons, List.not_mem_nil, or_false] at hmem
    rcases hmem with rfl | rfl | rfl
    · exact absurd hname (by decide)
    · cases hverdict
    · exact absurd hname (by decide)

end Scheduler

end PodPlacement
