import PodPlacement.Framework.Registry
import PodPlacement.Proofs.Table

/-!
What registering, unregistering and merging make of a registry. None of them ever replaces a
factory. One that is refused changes nothing, but for a merge: what stands before the first name
that is taken has moved over by then.
-/

namespace PodPlacement.Registry

def get? (r : Registry) (name : String) : Option PluginFactory := r.factories.get? name

variable {r r' other : Registry} {name k : String} {f : PluginFactory}
  {before : List (String × PluginFactory)}

theorem contains_iff : r.contains name = true ↔ name ∈ r.names := by
  rw [contains, Table.contains, Option.isSome_iff_exists, names, Table.mem_keys_iff]

theorem mem_names_iff : name ∈ r.names ↔ ∃ f, r.get? name = some f := Table.mem_keys_iff

theorem get?_eq_none_iff : r.get? name = none ↔ name ∉ r.names := Table.get?_eq_none_iff

theorem ext_get? (h : ∀ k, r.get? k = r'.get? k) : r = r' := by
  obtain ⟨factories⟩ := r
  obtain ⟨factories'⟩ := r'
  exact congrArg Registry.mk (Table.ext_get? h)

/-! ### One name -/

def insert (r : Registry) (name : String) (f : PluginFactory) : Registry :=
  { factories := r.factories.insert name f }

@[simp]
theorem get?_insert (r : Registry) (name k : String) (f : PluginFactory) :
    (r.insert name f).get? k = if k = name then some f else r.get? k := Table.get?_insert ..

theorem register_of_mem (h : name ∈ r.names) :
    r.register name f = (.error (taken name "Register each plugin under a unique name"), r) :=
  if_pos (contains_iff.2 h)

theorem register_of_not_mem (h : name ∉ r.names) :
    r.register name f = (.ok (), r.insert name f) := if_neg (mt contains_iff.1 h)

theorem unregister_of_not_mem (h : name ∉ r.names) :
    r.unregister name = (.error (.framework ("no plugin named " ++ name ++ " exists")
      "Check the registered plugin names"), r) := if_neg (mt contains_iff.1 h)

theorem unregister_of_mem (h : name ∈ r.names) : ∃ r', r.unregister name = (.ok (), r') ∧
    ∀ k, r'.get? k = if k = name then none else r.get? k :=
  ⟨{ factories := r.factories.erase name }, if_pos (contains_iff.2 h), Table.get?_erase _ _⟩

/-! ### Many names -/

/-- A merge gets past names that are free and different from each other. -/
theorem mergeEntries_append (after : List (String × PluginFactory))
    (hdistinct : (before.map (·.1)).Nodup) (hfree : ∀ e ∈ before, e.1 ∉ r.names) :
    ∃ r' : Registry, (∀ k, r'.get? k = (r.get? k).or (before.lookup k)) ∧
      r.mergeEntries (before ++ after) = r'.mergeEntries after := by
  induction before generalizing r with
  | nil => exact ⟨r, by simp, rfl⟩
  | cons e before ih =>
    obtain ⟨hhead, htail⟩ := List.nodup_cons.1 hdistinct
    have hfresh := hfree e (List.mem_cons_self ..)
    have hrest : ∀ e' ∈ before, e'.1 ∉ (r.insert e.1 e.2).names := by
      intro e' he'
      have hne : e'.1 ≠ e.1 := by
        intro heq
        exact hhead (List.mem_map.2 ⟨e', he', heq⟩)
      rw [← get?_eq_none_iff, get?_insert, if_neg hne, get?_eq_none_iff]
      exact hfree e' (List.mem_cons_of_mem _ he')
    obtain ⟨r', hget, hmerge⟩ := ih htail hrest
    refine ⟨r', fun k ↦ ?_, ?_⟩
    · rw [hget, get?_insert, Table.lookup_cons_ite]
      by_cases hk : k = e.1
      · rw [if_pos hk, if_pos hk, hk, get?_eq_none_iff.2 hfresh]
        rfl
      · rw [if_neg hk, if_neg hk]
    · exact (if_neg (mt contains_iff.1 hfresh)).trans hmerge

theorem merge_of_disjoint (h : ∀ k ∈ other.names, k ∉ r.names) :
    ∃ r', r.merge other = (.ok (), r') ∧ ∀ k, r'.get? k = (r.get? k).or (other.get? k) := by
  obtain ⟨r', hget, hmerge⟩ := mergeEntries_append [] (Table.keys_nodup other.factories)
    fun e he ↦ h e.1 (List.mem_map_of_mem he)
  rw [List.append_nil] at hmerge
  exact ⟨r', hmerge, hget⟩

/-- In the order of the names, `name` is the first in `other` that `r` has, too. -/
structure FirstTaken (r other : Registry) (name : String) : Prop where
  offered : name ∈ other.names
  taken : name ∈ r.names
  first : ∀ k ∈ other.names, k < name → k ∉ r.names

theorem exists_firstTaken (h : ∃ k ∈ other.names, k ∈ r.names) :
    ∃ name, FirstTaken r other name := by
  obtain ⟨name, hname⟩ : ∃ name, other.names.find? (· ∈ r.names) = some name := by
    obtain ⟨k, hk, htaken⟩ := h
    exact Option.isSome_iff_exists.1 (List.find?_isSome.2 ⟨k, hk, decide_eq_true htaken⟩)
  obtain ⟨htaken, before, after, hnames, hbefore⟩ := List.find?_eq_some_iff_append.1 hname
  have hascending : other.names.Pairwise (· < ·) := List.pairwise_map.2 other.factories.ascending
  rw [hnames] at hascending
  refine ⟨name, by simp [hnames], of_decide_eq_true htaken, fun k hk hlt ↦ ?_⟩
  rw [hnames] at hk
  rcases List.mem_append.1 hk with hk | hk
  · simpa using hbefore k hk
  · have hbehind := (List.pairwise_append.1 hascending).2.1
    rcases List.mem_cons.1 hk with rfl | hk
    · exact absurd hlt (String.lt_irrefl _)
    · exact absurd (List.rel_of_pairwise_cons hbehind hk) (String.lt_asymm hlt)

theorem lookup_before {after : List (String × PluginFactory)}
    (h : (before ++ (name, f) :: after).Pairwise fun a b ↦ a.1 < b.1) (k : String) :
    before.lookup k = if k < name then (before ++ (name, f) :: after).lookup k else none := by
  obtain ⟨_, hafter, hacross⟩ := List.pairwise_append.1 h
  rw [List.lookup_append]
  split
  · next hk =>
    have hbehind : ((name, f) :: after).lookup k = none := by
      refine Table.lookup_eq_none_of_lt fun e he ↦ ?_
      rcases List.mem_cons.1 he with rfl | he
      · exact hk
      · exact String.lt_trans hk (List.rel_of_pairwise_cons hafter he)
    rw [hbehind, Option.or_none]
  · next hk =>
    rw [List.lookup_eq_none_iff]
    intro e he
    rw [bne_iff_ne]
    rintro rfl
    exact hk (hacross e he _ (List.mem_cons_self ..))

theorem merge_of_firstTaken (h : FirstTaken r other name) : ∃ r', r.merge other =
      (.error (taken name "Out-of-tree plugins must not reuse in-tree plugin names"), r') ∧
    ∀ k, r'.get? k = (r.get? k).or (if k < name then other.get? k else none) := by
  obtain ⟨⟨name, f⟩, hmem, rfl⟩ := List.mem_map.1 h.offered
  obtain ⟨before, after, hsplit⟩ := List.append_of_mem hmem
  have hascending := other.factories.ascending
  rw [hsplit] at hascending
  obtain ⟨hbefore, _, hacross⟩ := List.pairwise_append.1 hascending
  have hdistinct : (before.map (·.1)).Nodup :=
    List.nodup_iff_pairwise_ne.2 (List.pairwise_map.2 (hbefore.imp fun hlt ↦ String.ne_of_lt hlt))
  have hfree : ∀ e ∈ before, e.1 ∉ r.names := by
    intro e he
    refine h.first e.1 (List.mem_map_of_mem ?_) (hacross e he _ (List.mem_cons_self ..))
    rw [hsplit]
    exact List.mem_append_left _ he
  obtain ⟨r', hget, hmerge⟩ := mergeEntries_append ((name, f) :: after) hdistinct hfree
  refine ⟨r', ?_, fun k ↦ ?_⟩
  · have hstill : r'.contains name = true := by
      obtain ⟨kept, hkept⟩ := mem_names_iff.1 h.taken
      refine contains_iff.2 (mem_names_iff.2 ⟨kept, ?_⟩)
      rw [hget, hkept, Option.some_or]
    rw [merge, hsplit, hmerge]
    exact if_pos hstill
  · rw [hget, lookup_before hascending, ← hsplit]
    rfl

/-! ### Operations in a row -/

inductive Operation
  | register (name : String) (f : PluginFactory)
  | unregister (name : String)
  | merge (other : Registry)

def Operation.run : Operation → Registry → Except SchedulingError Unit × Registry
  | register name f, r => r.register name f
  | unregister name, r => r.unregister name
  | merge other, r => r.merge other

def result (r : Registry) (ops : List Operation) : Registry := ops.foldl (fun r op ↦ (op.run r).2) r

theorem merge_cases (r other : Registry) : ∃ more : String → Option PluginFactory,
    ∀ k, (r.merge other).2.get? k = (r.get? k).or (more k) := by
  by_cases h : ∃ k ∈ other.names, k ∈ r.names
  · obtain ⟨name, hfirst⟩ := exists_firstTaken h
    obtain ⟨r', hmerge, hget⟩ := merge_of_firstTaken hfirst
    rw [hmerge]
    exact ⟨_, hget⟩
  · obtain ⟨r', hmerge, hget⟩ := merge_of_disjoint fun k hk htaken ↦ h ⟨k, hk, htaken⟩
    rw [hmerge]
    exact ⟨_, hget⟩

/-- A name that is there before and after an operation has the same factory. -/
theorem Operation.get?_run (op : Operation) (hbefore : name ∈ r.names)
    (hafter : name ∈ (op.run r).2.names) : (op.run r).2.get? name = r.get? name := by
  obtain ⟨f, hf⟩ := mem_names_iff.1 hbefore
  cases op with
  | register name' f' =>
    simp only [run]
    by_cases htaken : name' ∈ r.names
    · rw [register_of_mem htaken]
    · have hne : name ≠ name' := fun heq ↦ htaken (heq ▸ hbefore)
      rw [register_of_not_mem htaken, get?_insert, if_neg hne]
  | unregister name' =>
    simp only [run] at hafter ⊢
    by_cases hthere : name' ∈ r.names
    · obtain ⟨r', hunregister, hget⟩ := unregister_of_mem hthere
      rw [hunregister] at hafter ⊢
      obtain ⟨f', hf'⟩ := mem_names_iff.1 hafter
      have hne : name ≠ name' := by
        rintro rfl
        rw [hget, if_pos rfl] at hf'
        cases hf'
      rw [hget, if_neg hne]
    · rw [unregister_of_not_mem hthere]
  | merge other =>
    obtain ⟨more, hget⟩ := merge_cases r other
    change (r.merge other).2.get? name = _
    rw [hget, hf, Option.some_or]

theorem get?_result (ops : List Operation)
    (h : ∀ done rest, ops = done ++ rest → name ∈ (r.result done).names) :
    (r.result ops).get? name = r.get? name := by
  induction ops generalizing r with
  | nil => rfl
  | cons op ops ih =>
    have hstep := op.get?_run (h [] _ rfl) (h [op] ops rfl)
    have hlater : ((op.run r).2.result ops).get? name = (op.run r).2.get? name := by
      refine ih fun done rest hsplit ↦ ?_
      exact h (op :: done) rest (congrArg (op :: ·) hsplit)
    exact hlater.trans hstep

/-- A name is registered if it is free and unregistered if it is there, and a merge adds the
factories of the other registry if none of their names is taken. Otherwise a registration or its end
changes nothing, and a merge only adds those before the first name that is taken, which is nothing
exactly if no name of the other registry comes before that one. Whatever is done, and whether it
succeeds or not, a name has the same factory for as long as it is there. -/
theorem operations_exact (r : Registry) :
    (∀ name f,
      (name ∈ r.names → r.register name f =
        (.error (taken name "Register each plugin under a unique name"), r)) ∧
      (name ∉ r.names → ∃ r', r.register name f = (.ok (), r') ∧
        ∀ k, r'.get? k = if k = name then some f else r.get? k)) ∧
    (∀ name,
      (name ∉ r.names → r.unregister name =
        (.error (.framework ("no plugin named " ++ name ++ " exists")
          "Check the registered plugin names"), r)) ∧
      (name ∈ r.names → ∃ r', r.unregister name = (.ok (), r') ∧
        ∀ k, r'.get? k = if k = name then none else r.get? k)) ∧
    (∀ other : Registry,
      ((∀ k ∈ other.names, k ∉ r.names) → ∃ r', r.merge other = (.ok (), r') ∧
        ∀ k, r'.get? k = (r.get? k).or (other.get? k)) ∧
      ((∃ k ∈ other.names, k ∈ r.names) → ∃ name, FirstTaken r other name) ∧
      ∀ name, FirstTaken r other name → ∃ r', r.merge other =
          (.error (taken name "Out-of-tree plugins must not reuse in-tree plugin names"), r') ∧
        (∀ k, r'.get? k = (r.get? k).or (if k < name then other.get? k else none)) ∧
        (r' = r ↔ ∀ k ∈ other.names, ¬k < name)) ∧
    ∀ ops name, (∀ done rest, ops = done ++ rest → name ∈ (r.result done).names) →
      (r.result ops).get? name = r.get? name := by
  refine ⟨fun name f ↦ ⟨register_of_mem, fun h ↦
      ⟨_, register_of_not_mem h, fun k ↦ get?_insert r name k f⟩⟩,
    fun name ↦ ⟨unregister_of_not_mem, unregister_of_mem⟩,
    fun other ↦ ⟨merge_of_disjoint, exists_firstTaken, fun name h ↦ ?_⟩,
    fun ops name ↦ get?_result ops⟩
  obtain ⟨r', hmerge, hget⟩ := merge_of_firstTaken h
  refine ⟨r', hmerge, hget, ?_, ?_⟩
  · rintro rfl k hk hlt
    obtain ⟨f, hf⟩ := mem_names_iff.1 hk
    have hmoved := hget k
    rw [get?_eq_none_iff.2 (h.first k hk hlt), if_pos hlt, hf] at hmoved
    cases hmoved
  · intro hnone
    refine ext_get? fun k ↦ ?_
    rw [hget]
    split
    · next hlt =>
      have habsent : other.get? k = none := get?_eq_none_iff.2 fun hk ↦ hnone k hk hlt
      rw [habsent, Option.or_none]
    · exact Option.or_none

/-- Of three names the second is taken: the first moves over, the third does not. -/
theorem operations_exact_half_moved :
    let noop : Plugin := { name := "Noop" }
    let aaa : Plugin := { name := "Aaa" }
    let present := empty.result [.register "Noop" (.ok noop)]
    let more := ofPlugins [aaa, noop, { name := "Zzz" }]
    FirstTaken present more "Noop" ∧
    (∃ r', present.register "Zzz" (.ok aaa) = (.ok (), r') ∧ r'.get? "Noop" = some (.ok noop)) ∧
    ∃ r', present.merge more = (.error (taken "Noop"
        "Out-of-tree plugins must not reuse in-tree plugin names"), r') ∧
      r'.get? "Noop" = some (.ok noop) ∧ r'.get? "Aaa" = more.get? "Aaa" ∧ "Aaa" ∈ more.names ∧
      r'.get? "Zzz" = none ∧ "Zzz" ∈ more.names ∧ r' ≠ present := by
  intro noop aaa present more
  have hfirst : FirstTaken present more "Noop" :=
    ⟨by decide +kernel, by decide +kernel, by decide +kernel⟩
  obtain ⟨hregister, _, hmerge, _⟩ := operations_exact present
  obtain ⟨r₁, hregistered, hget₁⟩ := (hregister "Zzz" (.ok aaa)).2 (by decide +kernel)
  obtain ⟨r₂, hrefused, hget₂, hsame⟩ := (hmerge more).2.2 "Noop" hfirst
  have habsent : present.get? "Aaa" = none := get?_eq_none_iff.2 (by decide +kernel)
  refine ⟨hfirst, ⟨r₁, hregistered, hget₁ "Noop"⟩, r₂, hrefused, (hget₂ "Noop").trans rfl, ?_,
    by decide +kernel, ?_, by decide +kernel, fun heq ↦ ?_⟩
  · rw [hget₂, if_pos (by decide), habsent, Option.none_or]
  · rw [hget₂, if_neg (by decide)]
    rfl
  · exact hsame.1 heq "Aaa" (by decide +kernel) (by decide)

/-- A merge that is refused has changed the registry. -/
theorem merge_refused_half_way :
    let noop : Plugin := { name := "Noop" }
    let present := empty.result [.register "Noop" (.ok noop)]
    let other := ofPlugins [{ name := "Aaa" }, noop]
    (∃ e, (present.merge other).1 = .error e) ∧ present.names = ["Noop"] ∧
      (present.merge other).2.names = ["Aaa", "Noop"] :=
  ⟨⟨_, rfl⟩, by decide +kernel, by decide +kernel⟩

end PodPlacement.Registry
