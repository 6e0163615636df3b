import PodPlacement.Proofs.Scheduling.Eviction.Reservation

/-!
Reserving a node and releasing it again. As long as the reservation stands, everyone sees it and
nobody can reserve the node for the same victim again; once it is released nothing is left of it.
-/

namespace PodPlacement.Evictor

open Memory

variable {x : Evictor} {e : Eviction} {u : NodeUpdate} {s : RetryState} {m m' : Memory}
  {trace : List Answered} {n changed : Node} {result : Except SchedulingError Unit}

/-! ### The calls that end with the node reserved -/

def Reserving (x : Evictor) (e : Eviction) : EvictionPhase → List Answered → Prop
  | .reading .reserve s, trace | .resting .reserve s _, trace =>
    Attempts x e .reserve s trace (.ok true)
  | .writing .reserve s changed, trace => ∀ n now, edit e now .reserve n = some changed →
      Attempts x e .reserve s (⟨.getNode e.host, .ok n⟩ :: trace) (.ok true)
  | .deleting, trace => trace = []
  | _, _ => False

theorem Attempts.of_settle {calls : List Answered} {outcome : Except ClusterError Bool}
    (hattempt : Attempt e .reserve calls outcome)
    (h : Reserving x e (x.settle e .reserve s outcome) trace) :
    Attempts x e .reserve s (calls ++ trace) (.ok true) := by
  unfold settle at h
  cases hjudge : x.retry.judge (operation .reserve) s outcome with
  | rest d =>
    simp only [hjudge] at h
    exact .again hattempt hjudge h
  | finish final =>
    simp only [hjudge] at h
    match final, h with
    | .ok true, h =>
      cases h
      rw [List.append_nil]
      exact .last hattempt hjudge
    | .ok false, h => cases h
    | .error _, h => cases h

/-- Alone with the orchestrator in the state `m`, the phase always leads to that result and to a
`good` state, and there is a run that does. -/
def Concludes (x : Evictor) (e : Eviction) (m : Memory) (phase : EvictionPhase)
    (result : Except SchedulingError Unit) (good : Memory → Prop) : Prop :=
  (∃ trace m', Run (x.next e) phase trace (.finished result) ∧ m.Answers trace m') ∧
    ∀ trace m' final, Run (x.next e) phase trace (.finished final) → m.Answers trace m' →
      final = result ∧ good m'

/-- The host can be released: it is `n`, and without the conditions for the victim `changed`. -/
structure Releasable (e : Eviction) (m : Memory) (n changed : Node) : Prop where
  host : m.cluster.nodes.get? e.host = some n
  name : n.name = e.host
  changes : n.release? e.victimKey.text = some changed

theorem metadata_release? {victim : String} (h : n.release? victim = some changed) :
    changed.metadata = n.metadata := by
  unfold Node.release? at h
  split at h
  · cases h
    rfl
  · cases h

/-- An update of the host is refused as long as a conflict is injected, and then accepted. -/
theorem Releasable.update_cases (h : Releasable e m n changed) :
    (m.faults.nodeConflicts = 0 ∧ m.updateNodeStatus changed =
      (.ok (m.written changed n), m.bump.putNode e.host (m.written changed n))) ∨
    ∃ left cause, m.faults.nodeConflicts = left + 1 ∧ cause.isConflict = true ∧
      m.updateNodeStatus changed =
        (.error cause, { m with faults := { m.faults with nodeConflicts := left } }) := by
  have hmetadata := metadata_release? h.changes
  have hname : changed.name = e.host := by
    rw [Node.name, hmetadata]
    exact h.name
  cases hconflicts : m.faults.nodeConflicts with
  | zero =>
    have haccepts : m.Accepts changed n :=
      ⟨hconflicts, hname ▸ h.host, .inr (congrArg (·.version) hmetadata)⟩
    exact .inl ⟨rfl, hname ▸ haccepts.update_eq⟩
  | succ left =>
    refine .inr ⟨left, .conflict changed.name "injected conflict", rfl, rfl, ?_⟩
    unfold updateNodeStatus
    rw [if_pos (by omega), hconflicts]
    rfl

theorem Releasable.attempt_answered {outcome : Except ClusterError Bool}
    (h : Releasable e m n changed) (hattempt : Attempt e (.release result) trace outcome)
    (hanswers : m.Answers trace m') :
    ∃ answer, outcome = answer.map (fun _ ↦ true) ∧ m.updateNodeStatus changed = (answer, m') := by
  have hread := getNode_eq h.host
  cases hattempt with
  | unread cause =>
    obtain ⟨hcause, _⟩ := hanswers
    cases hcause.trans hread
  | unchanged n now hedit =>
    obtain ⟨hn, _⟩ := hanswers
    cases hn.trans hread
    cases hedit.symm.trans h.changes
  | written n changed now answer hedit =>
    obtain ⟨hn, hwrite, hend⟩ := hanswers
    cases hn.trans hread
    cases hedit.symm.trans h.changes
    exact ⟨answer, rfl, Prod.ext hwrite.symm hend.symm⟩

/-- Attempts that may meet every conflict there is come to write the host without the conditions. -/
theorem Releasable.answered {outcome : Except SchedulingError Bool}
    (h : Releasable e m n changed) (hfew : m.faults.nodeConflicts + s.attempt ≤ x.retry.attempts)
    (hattempts : Attempts x e (.release result) s trace outcome) (hanswers : m.Answers trace m') :
    ∃ n', n'.conditions = changed.conditions ∧
      m'.cluster = { m.cluster with nodes := m.cluster.nodes.insert e.host n' } := by
  induction hattempts generalizing m with
  | last hattempt hjudge =>
    obtain ⟨answer, rfl, hupdate⟩ := h.attempt_answered hattempt hanswers
    rcases h.update_cases with ⟨_, haccepted⟩ | ⟨left, cause, hsome, hconflict, hrefused⟩
    · cases hupdate.symm.trans haccepted
      exact ⟨m.written changed n, rfl, rfl⟩
    · cases hupdate.symm.trans hrefused
      cases hjudge.symm.trans (RetryConfig.judge_of_conflict hconflict (by omega))
  | again hattempt hjudge _ ih =>
    obtain ⟨between, hfirst, hlater⟩ := answers_append.1 hanswers
    obtain ⟨answer, rfl, hupdate⟩ := h.attempt_answered hattempt hfirst
    rcases h.update_cases with ⟨_, haccepted⟩ | ⟨left, cause, hsome, hconflict, hrefused⟩
    · cases hupdate.symm.trans haccepted
      cases hjudge
    · cases hupdate.symm.trans hrefused
      let m₁ : Memory := { m with faults := { m.faults with nodeConflicts := left } }
      refine ih (m := m₁) ⟨h.host, h.name, h.changes⟩ ?_ hlater
      change left + (_ + 1) ≤ _
      omega

theorem Concludes.imp {phase : EvictionPhase} {good good' : Memory → Prop}
    (h : x.Concludes e m phase result good) (himp : ∀ m', good m' → good' m') :
    x.Concludes e m phase result good' := by
  refine ⟨h.1, fun trace m' final hrun hanswers ↦ ?_⟩
  obtain ⟨hfinal, hgood⟩ := h.2 trace m' final hrun hanswers
  exact ⟨hfinal, himp m' hgood⟩

/-! ### A reservation from its beginning to its end -/

end PodPlacement.Evictor
