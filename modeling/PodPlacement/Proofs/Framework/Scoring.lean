import Mathlib.Data.List.Forall2
import PodPlacement.Framework.Scoring
import PodPlacement.Proofs.Word

/-!
Scoring side by side, for every order of the tasks' steps. Each task always holds the scores of the
plugins it has got through, and nothing is called off without a failure; so a run that has come to
its end without one holds every score of every node.
-/

namespace PodPlacement

variable (env : Surroundings) (notes : CycleState) (p : Pod)

namespace ScoreRun

def worth (n : NodeInfo) (plugin : WeightedScore) : Int :=
  plugin.weight * (plugin.run env notes p n).toOption.getD 0

theorem evaluate_eq_ok_iff {n : NodeInfo} {plugin : WeightedScore} {x : Int} :
    evaluate env notes p n plugin = .ok x ↔
      ∃ score, plugin.run env notes p n = .ok score ∧ minScore ≤ score ∧ score ≤ maxScore ∧
        x = Word.mul plugin.weight score := by
  unfold evaluate
  cases hrun : plugin.run env notes p n with
  | error status => simp
  | ok score =>
    dsimp only
    by_cases hrange : minScore ≤ score ∧ score ≤ maxScore
    · rw [if_pos hrange]
      constructor
      · rintro ⟨⟩
        exact ⟨score, rfl, hrange.1, hrange.2, Word.mul_comm _ _⟩
      · rintro ⟨_, ⟨⟩, _, _, rfl⟩
        rw [Word.mul_comm]
    · rw [if_neg hrange]
      constructor
      · rintro ⟨⟩
      · rintro ⟨_, ⟨⟩, hmin, hmax, _⟩
        exact absurd ⟨hmin, hmax⟩ hrange

theorem worth_of_run {n : NodeInfo} {plugin : WeightedScore} {score : Int}
    (h : plugin.run env notes p n = .ok score) :
    worth env notes p n plugin = plugin.weight * score := by
  rw [worth, h]
  rfl

theorem eq_wrap_worth {n : NodeInfo} {plugin : WeightedScore} {x : Int}
    (h : evaluate env notes p n plugin = .ok x) : x = Word.wrap (worth env notes p n plugin) := by
  obtain ⟨score, hrun, _, _, rfl⟩ := (evaluate_eq_ok_iff env notes p).1 h
  rw [worth_of_run env notes p hrun]
  rfl

def Scored (n : NodeInfo) : List WeightedScore → List Int → Prop :=
  List.Forall₂ fun plugin x ↦ evaluate env notes p n plugin = .ok x

theorem Scored.eq_map {n : NodeInfo} {plugins : List WeightedScore} {xs : List Int}
    (h : Scored env notes p n plugins xs) :
    xs = plugins.map fun plugin ↦ Word.wrap (worth env notes p n plugin) := by
  induction h with
  | nil => rfl
  | cons hx _ ih => rw [List.map_cons, ← eq_wrap_worth env notes p hx, ← ih]

theorem Scored.evaluates {n : NodeInfo} {plugins : List WeightedScore} {xs : List Int}
    (h : Scored env notes p n plugins xs) {plugin : WeightedScore} (hp : plugin ∈ plugins) :
    ∃ x, evaluate env notes p n plugin = .ok x := by
  induction h with
  | nil => cases hp
  | cons hx _ ih =>
    rcases List.mem_cons.1 hp with rfl | hp
    · exact ⟨_, hx⟩
    · exact ih hp

/-! ### What every step keeps -/

/-- A task has the scores of the plugins that it has got through, and works on one that is left. -/
structure TaskSound (plugins : List WeightedScore) (t : ScoreTask) : Prop where
  split : ∃ past, plugins = past ++ t.rest ∧ Scored env notes p t.node past t.scores
  busy : t.phase = .working → t.rest ≠ []

structure Sound (plugins : List WeightedScore) (nodes : List NodeInfo) (r : ScoreRun) : Prop where
  nodes_eq : r.tasks.map (·.node) = nodes
  task : ∀ t ∈ r.tasks, TaskSound env notes p plugins t
  /-- Without a failure nothing is called off, and only a task that is through comes to its end. -/
  quiet : r.failure = none → r.calledOff = false ∧
    ∀ t ∈ r.tasks, t.phase ≠ .calling ∧ (t.phase = .done → t.rest = [])
  blamed : ∀ status, r.failure = some status →
    ∃ n ∈ nodes, ∃ plugin ∈ plugins, evaluate env notes p n plugin = .error status

variable {env notes p} {plugins : List WeightedScore} {nodes : List NodeInfo}

theorem start_sound : Sound env notes p plugins nodes (start plugins nodes) where
  nodes_eq := by simp [start, Function.comp_def]
  task := by
    intro t ht
    obtain ⟨n, _, rfl⟩ := List.mem_map.1 ht
    exact ⟨⟨[], rfl, .nil⟩, by simp⟩
  quiet := by
    refine fun _ ↦ ⟨rfl, fun t ht ↦ ?_⟩
    obtain ⟨n, _, rfl⟩ := List.mem_map.1 ht
    simp
  blamed := by simp [start]

/-- One task goes on; what the others have done stays. -/
theorem Sound.update {r : ScoreRun} (h : Sound env notes p plugins nodes r) {i : Nat}
    {t : ScoreTask} (ht : r.tasks[i]? = some t) (t' : ScoreTask) (hnode : t'.node = t.node)
    (htask : TaskSound env notes p plugins t') {failure : Option Status} {calledOff : Bool}
    (hquiet : failure = none → r.failure = none ∧ calledOff = false ∧ t'.phase ≠ .calling ∧
      (t'.phase = .done → t'.rest = []))
    (hblamed : ∀ status, failure = some status → r.failure = some status ∨
      ∃ plugin ∈ plugins, evaluate env notes p t.node plugin = .error status) :
    Sound env notes p plugins nodes ⟨r.tasks.set i t', failure, calledOff⟩ where
  nodes_eq := by
    obtain ⟨hi, rfl⟩ := List.getElem?_eq_some_iff.1 ht
    have hi' : i < (r.tasks.map (·.node)).length := by rwa [List.length_map]
    have hself := List.set_getElem_self hi'
    rw [List.getElem_map] at hself
    rw [List.map_set, hnode, hself, h.nodes_eq]
  task := by
    intro u hu
    rcases List.mem_or_eq_of_mem_set hu with hold | rfl
    · exact h.task u hold
    · exact htask
  quiet := by
    intro hnone
    obtain ⟨hfail, hoff, hphase⟩ := hquiet hnone
    refine ⟨hoff, fun u hu ↦ ?_⟩
    rcases List.mem_or_eq_of_mem_set hu with hold | rfl
    · exact (h.quiet hfail).2 u hold
    · exact hphase
  blamed := by
    intro status hstatus
    rcases hblamed status hstatus with hold | ⟨plugin, hplugin, herr⟩
    · exact h.blamed status hold
    · refine ⟨t.node, ?_, plugin, hplugin, herr⟩
      rw [← h.nodes_eq]
      exact List.mem_map_of_mem (List.mem_of_getElem? ht)

theorem step_sound {r : ScoreRun} (h : Sound env notes p plugins nodes r) (i : Nat) :
    Sound env notes p plugins nodes (step env notes p r i) := by
  unfold step
  cases ht : r.tasks[i]? with
  | none => exact h
  | some t =>
    have htask := h.task t (List.mem_of_getElem? ht)
    obtain ⟨⟨past, hpast, hscored⟩, hbusy⟩ := htask
    have hkeep : ∀ status, r.failure = some status → r.failure = some status ∨
        ∃ plugin ∈ plugins, evaluate env notes p t.node plugin = .error status :=
      fun _ hs ↦ .inl hs
    rcases t with ⟨node, rest, scores, phase⟩
    dsimp only at hpast hscored hbusy
    cases phase with
    | looking =>
      cases rest with
      | nil =>
        exact h.update ht ⟨node, [], scores, .done⟩ rfl ⟨⟨past, hpast, hscored⟩, by simp⟩
          (fun hn ↦ ⟨hn, (h.quiet hn).1, by simp⟩) hkeep
      | cons plugin rest =>
        refine h.update ht ⟨node, plugin :: rest, scores, if r.calledOff then .done else .working⟩
          rfl ⟨⟨past, hpast, hscored⟩, by simp⟩ (fun hn ↦ ⟨hn, (h.quiet hn).1, ?_⟩) hkeep
        simp [(h.quiet hn).1]
    | working =>
      cases rest with
      | nil => exact absurd rfl (hbusy rfl)
      | cons plugin rest =>
        simp only [stepTask]
        cases he : evaluate env notes p node plugin with
        | ok x =>
          refine h.update ht ⟨node, rest, scores ++ [x], .looking⟩ rfl
            ⟨⟨past ++ [plugin], ?_, ?_⟩, by simp⟩ (fun hn ↦ ⟨hn, (h.quiet hn).1, by simp⟩) hkeep
          · rw [hpast, List.append_assoc, List.singleton_append]
          · exact List.rel_append hscored (.cons he .nil)
        | error failure =>
          refine h.update ht ⟨node, plugin :: rest, scores, .calling⟩ rfl
            ⟨⟨past, hpast, hscored⟩, by simp⟩ (fun hn ↦ ?_) (fun status hs ↦ ?_)
          · simp at hn
          · rcases Option.or_eq_some_iff.1 hs with hold | ⟨_, hnew⟩
            · exact .inl hold
            · refine .inr ⟨plugin, ?_, he.trans (congrArg _ (Option.some.inj hnew))⟩
              rw [hpast]
              simp
    | calling =>
      refine h.update ht ⟨node, rest, scores, .done⟩ rfl ⟨⟨past, hpast, hscored⟩, by simp⟩
        (fun hn ↦ ?_) hkeep
      exact absurd rfl ((h.quiet hn).2 _ (List.mem_of_getElem? ht)).1
    | done => cases rest <;> exact h

theorem steps_sound {r : ScoreRun} (h : Sound env notes p plugins nodes r) (schedule : List Nat) :
    Sound env notes p plugins nodes (r.steps env notes p schedule) := by
  induction schedule generalizing r with
  | nil => exact h
  | cons i schedule ih => exact ih (step_sound h i)

/-! ### How runs end -/

def stepsLeft (t : ScoreTask) : Nat :=
  match t.phase with
  | .looking => 2 * t.rest.length + 1
  | .working => 2 * t.rest.length
  | .calling => 1
  | .done => 0

theorem TaskSound.done_of_stepsLeft {t : ScoreTask} (h : TaskSound env notes p plugins t)
    (hleft : stepsLeft t = 0) : t.phase = .done := by
  rcases t with ⟨node, rest, scores, phase⟩
  cases phase with
  | looking => simp [stepsLeft] at hleft
  | working =>
    have htwice : 2 * rest.length = 0 := hleft
    have hrest : rest = [] := List.length_eq_zero_iff.1 (by omega)
    exact absurd hrest (h.busy rfl)
  | calling => simp [stepsLeft] at hleft
  | done => rfl

/-- A step of a task leaves it fewer steps, unless it has none left. -/
theorem stepTask_stepsLeft {r : ScoreRun} {i : Nat} {t : ScoreTask}
    (h : TaskSound env notes p plugins t) (ht : r.tasks[i]? = some t) :
    ∃ t', (stepTask env notes p r i t).tasks = r.tasks.set i t' ∧
      stepsLeft t' ≤ stepsLeft t - 1 := by
  rcases t with ⟨node, rest, scores, phase⟩
  have hsame : r.tasks = r.tasks.set i ⟨node, rest, scores, phase⟩ := by
    obtain ⟨_, heq⟩ := List.getElem?_eq_some_iff.1 ht
    rw [← heq, List.set_getElem_self]
  cases phase with
  | looking =>
    cases rest with
    | nil => exact ⟨_, rfl, by simp [stepsLeft]⟩
    | cons plugin rest =>
      refine ⟨_, rfl, ?_⟩
      cases r.calledOff <;> simp [stepsLeft]
  | working =>
    cases rest with
    | nil => exact absurd rfl (h.busy rfl)
    | cons plugin rest =>
      simp only [stepTask]
      cases evaluate env notes p node plugin with
      | ok x => exact ⟨_, rfl, by simp only [stepsLeft, List.length_cons]; omega⟩
      | error failure => exact ⟨_, rfl, by simp only [stepsLeft, List.length_cons]; omega⟩
  | calling => exact ⟨_, rfl, by simp [stepsLeft]⟩
  | done => cases rest <;> exact ⟨_, hsame, Nat.le_refl _⟩

theorem step_stepsLeft {r : ScoreRun} (h : Sound env notes p plugins nodes r) (i j : Nat)
    {t : ScoreTask} (ht : r.tasks[j]? = some t) :
    ∃ t', (step env notes p r i).tasks[j]? = some t' ∧
      stepsLeft t' ≤ stepsLeft t - [i].count j := by
  unfold step
  cases hi : r.tasks[i]? with
  | none =>
    have hne : i ≠ j := by
      rintro rfl
      simp [hi] at ht
    exact ⟨t, ht, by simp [hne]⟩
  | some u =>
    have hlt := (List.getElem?_eq_some_iff.1 hi).1
    obtain ⟨u', hset, hleft⟩ :=
      stepTask_stepsLeft (h.task u (List.mem_of_getElem? hi)) hi
    dsimp only
    rw [hset]
    by_cases hij : i = j
    · subst hij
      rw [hi, Option.some_inj] at ht
      exact ⟨u', List.getElem?_set_self hlt, by simpa [← ht] using hleft⟩
    · exact ⟨t, by rw [List.getElem?_set_ne hij, ht], by simp [hij]⟩

theorem steps_stepsLeft {r : ScoreRun} (h : Sound env notes p plugins nodes r)
    (schedule : List Nat) (j : Nat) {t : ScoreTask} (ht : r.tasks[j]? = some t) :
    ∃ t', (r.steps env notes p schedule).tasks[j]? = some t' ∧
      stepsLeft t' ≤ stepsLeft t - schedule.count j := by
  induction schedule generalizing r t with
  | nil => exact ⟨t, ht, by simp⟩
  | cons i schedule ih =>
    obtain ⟨u, hu, hle⟩ := step_stepsLeft h i j ht
    obtain ⟨v, hv, hle'⟩ := ih (step_sound h i) hu
    have hcount : (i :: schedule).count j = [i].count j + schedule.count j := by
      rw [← List.count_append, List.singleton_append]
    exact ⟨v, hv, by omega⟩

/-- A schedule that names every task often enough takes the run to its end. -/
theorem isFinished_of_count {schedule : List Nat}
    (h : ∀ j < nodes.length, 2 * plugins.length + 1 ≤ schedule.count j) :
    ((start plugins nodes).steps env notes p schedule).isFinished = true := by
  have hstart : Sound env notes p plugins nodes (start plugins nodes) := start_sound
  have hend := steps_sound hstart schedule
  have hlen : ((start plugins nodes).steps env notes p schedule).tasks.length = nodes.length := by
    have hnodes := congrArg List.length hend.nodes_eq
    rwa [List.length_map] at hnodes
  refine List.all_eq_true.2 fun t ht ↦ ?_
  obtain ⟨j, hj, hget⟩ := List.getElem_of_mem ht
  have hjn : j < nodes.length := hlen ▸ hj
  have htask : (start plugins nodes).tasks[j]? = some { node := nodes[j], rest := plugins } := by
    simp only [start, List.getElem?_map, List.getElem?_eq_getElem hjn, Option.map_some]
  obtain ⟨t', ht', hleft⟩ := steps_stepsLeft hstart schedule j htask
  have heq : t' = t := by
    rw [List.getElem?_eq_getElem hj, hget, Option.some_inj] at ht'
    exact ht'.symm
  have hdone : stepsLeft t = 0 := by
    have hfull : stepsLeft { node := nodes[j], rest := plugins } = 2 * plugins.length + 1 := rfl
    have hcount := h j hjn
    rw [heq, hfull] at hleft
    omega
  exact beq_iff_eq.2 ((hend.task t ht).done_of_stepsLeft hdone)

theorem count_inTurn {k count j : Nat} (h : j < count) :
    2 * k + 1 ≤ (inTurn k count).count j := by
  have hsub : (List.replicate (2 * k + 2) j).Sublist (inTurn k count) :=
    List.sublist_flatten_of_mem (List.mem_map_of_mem (List.mem_range.2 h))
  have hle := hsub.count_le j
  rw [List.count_replicate_self] at hle
  omega

theorem inTurn_isFinished :
    ((start plugins nodes).steps env notes p (inTurn plugins.length nodes.length)).isFinished =
      true := isFinished_of_count fun _ hj ↦ count_inTurn hj

/-- What is known of a task that came to its end with no failure anywhere. -/
theorem Sound.scored {r : ScoreRun} (h : Sound env notes p plugins nodes r)
    (hfinished : r.isFinished = true) (hnone : r.failure = none) {t : ScoreTask}
    (ht : t ∈ r.tasks) : Scored env notes p t.node plugins t.scores := by
  have hdone : t.phase = .done := beq_iff_eq.1 (List.all_eq_true.1 hfinished t ht)
  have hrest := ((h.quiet hnone).2 t ht).2 hdone
  obtain ⟨past, hpast, hscored⟩ := (h.task t ht).split
  rw [hrest, List.append_nil] at hpast
  rwa [hpast]

def scoreTable (env : Surroundings) (notes : CycleState) (p : Pod) (plugins : List WeightedScore)
    (nodes : List NodeInfo) : Table (List NodeScore) :=
  .ofList (plugins.map fun plugin ↦
    (plugin.name, nodes.map fun n ↦ ⟨n.name, Word.wrap (worth env notes p n plugin)⟩))

theorem Sound.result_eq {r : ScoreRun} (h : Sound env notes p plugins nodes r)
    (hfinished : r.isFinished = true) (hnone : r.failure = none) :
    r.result plugins = .ok (scoreTable env notes p plugins nodes) := by
  let row (plugin : WeightedScore) : String × List NodeScore :=
    (plugin.name, nodes.map fun n ↦ ⟨n.name, Word.wrap (worth env notes p n plugin)⟩)
  have hrow : ∀ e ∈ plugins.zipIdx,
      (e.1.name, r.tasks.map fun t ↦ (⟨t.node.name, (t.scores[e.2]?).getD 0⟩ : NodeScore)) =
        (row ∘ Prod.fst) e := by
    intro e he
    refine congrArg (Prod.mk _) ?_
    rw [← h.nodes_eq, List.map_map]
    refine List.map_congr_left fun t ht ↦ ?_
    have hscores := (h.scored hfinished hnone ht).eq_map
    have hget := List.mem_zipIdx_iff_getElem?.1 he
    simp only [Function.comp_apply, hscores, List.getElem?_map, hget, Option.map_some,
      Option.getD_some]
  have hrows := List.map_congr_left hrow
  rw [← List.map_map, List.zipIdx_map_fst] at hrows
  rw [result, hnone, scoreTable, ← hrows]

/-- A run that has come to its end holds the scores of all nodes, or else one of its evaluations
failed and is the result. -/
theorem Sound.result_cases {r : ScoreRun} (h : Sound env notes p plugins nodes r)
    (hfinished : r.isFinished = true) :
    ((∀ n ∈ nodes, ∀ plugin ∈ plugins, ∃ x, evaluate env notes p n plugin = .ok x) ∧
      r.result plugins = .ok (scoreTable env notes p plugins nodes)) ∨
    ∃ status, r.result plugins = .error status ∧
      ∃ n ∈ nodes, ∃ plugin ∈ plugins, evaluate env notes p n plugin = .error status := by
  cases hf : r.failure with
  | none =>
    refine .inl ⟨fun n hn plugin hplugin ↦ ?_, h.result_eq hfinished hf⟩
    rw [← h.nodes_eq] at hn
    obtain ⟨t, ht, rfl⟩ := List.mem_map.1 hn
    exact (h.scored hfinished hf ht).evaluates env notes p hplugin
  | some status =>
    refine .inr ⟨status, ?_, h.blamed status hf⟩
    rw [result, hf]

end ScoreRun

/-! ### Totals -/

/-- What the plugins give a node all told. Each score has to lie in the range of scores and counts
as often as its plugin weighs. -/
inductive TotalScore (env : Surroundings) (notes : CycleState) (p : Pod) (n : NodeInfo) :
    List WeightedScore → Int → Prop
  | nil : TotalScore env notes p n [] 0
  | cons {plugin : WeightedScore} {rest : List WeightedScore} {score total : Int} :
      plugin.run env notes p n = .ok score → minScore ≤ score → score ≤ maxScore →
      TotalScore env notes p n rest total →
      TotalScore env notes p n (plugin :: rest) (plugin.weight * score + total)

open ScoreRun

theorem totalScore_of_evaluates {n : NodeInfo} {plugins : List WeightedScore}
    (h : ∀ plugin ∈ plugins, ∃ x, evaluate env notes p n plugin = .ok x) :
    TotalScore env notes p n plugins (plugins.map (worth env notes p n)).sum := by
  induction plugins with
  | nil => exact .nil
  | cons plugin rest ih =>
    obtain ⟨x, hx⟩ := h plugin (List.mem_cons_self ..)
    obtain ⟨score, hrun, hmin, hmax, _⟩ := (evaluate_eq_ok_iff env notes p).1 hx
    rw [List.map_cons, List.sum_cons, worth_of_run env notes p hrun]
    exact .cons hrun hmin hmax (ih fun q hq ↦ h q (List.mem_cons_of_mem _ hq))

theorem TotalScore.evaluates {n : NodeInfo} {plugins : List WeightedScore} {total : Int}
    (h : TotalScore env notes p n plugins total) :
    ∀ plugin ∈ plugins, ∃ x, evaluate env notes p n plugin = .ok x := by
  induction h with
  | nil => intro plugin hplugin; cases hplugin
  | cons hrun hmin hmax _ ih =>
    intro plugin hplugin
    rcases List.mem_cons.1 hplugin with rfl | hplugin
    · exact ⟨_, (evaluate_eq_ok_iff env notes p).2 ⟨_, hrun, hmin, hmax, rfl⟩⟩
    · exact ih plugin hplugin

end PodPlacement
