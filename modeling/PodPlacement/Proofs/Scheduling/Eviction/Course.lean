import PodPlacement.Proofs.Orchestrator.Run
import PodPlacement.Scheduling.Eviction

/-!
The courses that an eviction can take, one stage after the other, and that every finished run of an
evictor takes one of them.
-/

namespace PodPlacement.Evictor

variable (x : Evictor) (e : Eviction)

inductive Attempt (u : NodeUpdate) : List Answered → Except ClusterError Bool → Prop
  | unread (cause : ClusterError) : Attempt u [⟨.getNode e.host, .error cause⟩] (.error cause)
  | unchanged (n : Node) (now : Timestamp) : edit e now u n = none →
      Attempt u [⟨.getNode e.host, .ok n⟩] (.ok false)
  | written (n changed : Node) (now : Timestamp) (answer : Except ClusterError Node) :
      edit e now u n = some changed →
      Attempt u [⟨.getNode e.host, .ok n⟩, ⟨.updateNodeStatus changed, answer⟩]
        (answer.map fun _ ↦ true)

/-- Attempts at an update for as long as they are worth repeating, and the result of the last. -/
inductive Attempts (u : NodeUpdate) :
    RetryState → List Answered → Except SchedulingError Bool → Prop
  | last {s : RetryState} {calls : List Answered} {outcome : Except ClusterError Bool}
      {result : Except SchedulingError Bool} : Attempt e u calls outcome →
      x.retry.judge (operation u) s outcome = .finish result → Attempts u s calls result
  | again {s : RetryState} {calls later : List Answered} {outcome : Except ClusterError Bool}
      {d : Delay} {result : Except SchedulingError Bool} : Attempt e u calls outcome →
      x.retry.judge (operation u) s outcome = .rest d →
      Attempts u (x.retry.advance s) later result →
      Attempts u s (calls ++ later) result

/-- A release was tried, whether or not it came to anything. -/
def Released (result : Except SchedulingError Unit) (trace : List Answered) : Prop :=
  ∃ outcome, Attempts x e (.release result) x.retry.start trace outcome

inductive Placed : List Answered → Except SchedulingError Unit → Prop
  | bound {trace : List Answered} : Released x e (.ok ()) trace →
      Placed (⟨.bind e.preemptor e.host, .ok ()⟩ :: trace) (.ok ())
  | refused (cause : ClusterError) {trace : List Answered} :
      Released x e (.error (e.failure (.cluster cause))) trace →
      Placed (⟨.bind e.preemptor e.host, .error cause⟩ :: trace)
        (.error (e.failure (.cluster cause)))

/-- The answer shows that the victim is gone: nothing has its key, or another pod has. -/
def Gone (victim : Pod) : Except ClusterError Pod → Prop
  | .ok current => current.metadata.uid ≠ victim.metadata.uid
  | .error cause => cause.isNotFound = true

inductive Awaited : List Answered → Except SchedulingError Unit → Prop
  | gone {answer : Except ClusterError Pod} {trace : List Answered}
      {result : Except SchedulingError Unit} : Gone e.victim answer → Placed x e trace result →
      Awaited (⟨.getWorkload e.victimKey.space e.victimKey.name, answer⟩ :: trace) result
  | present {answer : Except ClusterError Pod} {trace : List Answered}
      {result : Except SchedulingError Unit} : ¬ Gone e.victim answer → Awaited trace result →
      Awaited (⟨.getWorkload e.victimKey.space e.victimKey.name, answer⟩ :: trace) result

def Removes : Except ClusterError Unit → Prop
  | .ok () => True
  | .error cause => cause.isNotFound = true

inductive Evicted : List Answered → Except SchedulingError Unit → Prop
  | removed {answer : Except ClusterError Unit} {trace : List Answered}
      {result : Except SchedulingError Unit} : Removes answer → Awaited x e trace result →
      Evicted (⟨.deleteWorkload e.victimKey.space e.victimKey.name x.deleteOptions, answer⟩ ::
        trace) result
  | refused (cause : ClusterError) {trace : List Answered} : ¬ Removes (.error cause) →
      Released x e (.error (e.failure (.cluster cause))) trace →
      Evicted (⟨.deleteWorkload e.victimKey.space e.victimKey.name x.deleteOptions,
        .error cause⟩ :: trace) (.error (e.failure (.cluster cause)))

def Ends (result : Except SchedulingError Unit) :
    NodeUpdate → Except SchedulingError Bool → List Answered → Prop
  | .reserve, .ok true, trace => Evicted x e trace result
  | .reserve, .ok false, trace => trace = [] ∧ result = .error e.alreadyReserved
  | .reserve, .error cause, trace => trace = [] ∧ result = .error cause
  | .release final, _, trace => trace = [] ∧ result = final

def Updates (result : Except SchedulingError Unit) (u : NodeUpdate) (s : RetryState)
    (trace : List Answered) : Prop :=
  ∃ held rest outcome, trace = held ++ rest ∧ Attempts x e u s held outcome ∧
    Ends x e result u outcome rest

/-- The calls that are still to come in each phase of a run with that result. -/
def Remains (result : Except SchedulingError Unit) : EvictionPhase → List Answered → Prop
  | .reading u s, trace | .resting u s _, trace => Updates x e result u s trace
  | .writing u s changed, trace => ∀ n now, edit e now u n = some changed →
      Updates x e result u s (⟨.getNode e.host, .ok n⟩ :: trace)
  | .deleting, trace => Evicted x e trace result
  | .checking _, trace | .waiting _, trace => Awaited x e trace result
  | .placing, trace => Placed x e trace result
  | .finished final, trace => trace = [] ∧ result = final

variable {x e} {result : Except SchedulingError Unit} {u : NodeUpdate} {s : RetryState}
  {trace : List Answered}

theorem Ends.of_conclude {outcome : Except SchedulingError Bool}
    (h : Remains x e result (conclude e u outcome) trace) : Ends x e result u outcome trace := by
  match u, outcome with
  | .reserve, .ok true => exact h
  | .reserve, .ok false => exact h
  | .reserve, .error _ => exact h
  | .release _, _ => exact h

/-- An attempt is the last one, or it stands in front of those that follow after a rest. -/
theorem Updates.of_settle {calls : List Answered} {outcome : Except ClusterError Bool}
    (hattempt : Attempt e u calls outcome)
    (h : Remains x e result (x.settle e u s outcome) trace) :
    Updates x e result u s (calls ++ trace) := by
  unfold settle at h
  cases hjudge : x.retry.judge (operation u) s outcome with
  | finish final =>
    simp only [hjudge] at h
    exact ⟨calls, trace, final, rfl, .last hattempt hjudge, .of_conclude h⟩
  | rest d =>
    simp only [hjudge] at h
    obtain ⟨held, rest, final, rfl, hattempts, hends⟩ := h
    exact ⟨calls ++ held, rest, final, (List.append_assoc ..).symm,
      .again hattempt hjudge hattempts, hends⟩

theorem Released.of_finish {final : Except SchedulingError Unit}
    (h : Remains x e result (x.finish final) trace) :
    Released x e final trace ∧ result = final := by
  obtain ⟨held, rest, outcome, rfl, hattempts, rfl, hresult⟩ := h
  exact ⟨⟨outcome, by rwa [List.append_nil]⟩, hresult⟩

/-! ### One step -/

theorem Updates.of_read {now : Timestamp} {answer : Except ClusterError Node}
    (h : Remains x e result (x.afterRead e now u s answer) trace) :
    Updates x e result u s (⟨.getNode e.host, answer⟩ :: trace) := by
  cases answer with
  | error cause => exact .of_settle (.unread cause) h
  | ok n =>
    unfold afterRead at h
    cases hedit : edit e now u n with
    | none =>
      simp only [hedit] at h
      exact .of_settle (.unchanged n now hedit) h
    | some changed =>
      simp only [hedit] at h
      exact h n now hedit

theorem Evicted.of_delete {answer : Except ClusterError Unit}
    (h : Remains x e result (x.afterDelete e answer) trace) :
    Evicted x e (⟨.deleteWorkload e.victimKey.space e.victimKey.name x.deleteOptions, answer⟩ ::
      trace) result := by
  cases answer with
  | ok _ => exact .removed trivial h
  | error cause =>
    unfold afterDelete at h
    by_cases hfound : cause.isNotFound = true
    · simp only [hfound, if_true] at h
      exact .removed hfound h
    · simp only [hfound, Bool.false_eq_true, if_false] at h
      obtain ⟨hreleased, rfl⟩ := Released.of_finish h
      exact .refused cause hfound hreleased

theorem Awaited.of_check {interval : Nat} {answer : Except ClusterError Pod}
    (h : Remains x e result (afterCheck e interval answer) trace) :
    Awaited x e (⟨.getWorkload e.victimKey.space e.victimKey.name, answer⟩ :: trace) result := by
  unfold afterCheck at h
  cases answer with
  | ok current =>
    by_cases hsame : current.metadata.uid = e.victim.metadata.uid
    · simp only [hsame, if_true] at h
      exact .present (fun hgone ↦ hgone hsame) h
    · simp only [hsame, if_false] at h
      exact .gone hsame h
  | error cause =>
    by_cases hfound : cause.isNotFound = true
    · simp only [hfound, if_true] at h
      exact .gone hfound h
    · simp only [hfound, Bool.false_eq_true, if_false] at h
      exact .present hfound h

theorem Placed.of_bind {answer : Except ClusterError Unit}
    (h : Remains x e result (x.afterBind e answer) trace) :
    Placed x e (⟨.bind e.preemptor e.host, answer⟩ :: trace) result := by
  cases answer with
  | ok _ =>
    obtain ⟨hreleased, rfl⟩ := Released.of_finish h
    exact .bound hreleased
  | error cause =>
    obtain ⟨hreleased, rfl⟩ := Released.of_finish h
    exact .refused cause hreleased

theorem remains_call {now : Timestamp} {phase : EvictionPhase} {c : Call}
    {resume : c.Answer → EvictionPhase} {answer : c.Answer}
    (hnext : x.next e now phase = .call c resume)
    (h : Remains x e result (resume answer) trace) :
    Remains x e result phase (⟨c, answer⟩ :: trace) := by
  cases phase with
  | reading u s =>
    cases hnext
    exact .of_read h
  | writing u s changed =>
    cases hnext
    intro n now hedit
    exact .of_settle (.written n changed now answer hedit) h
  | deleting =>
    cases hnext
    exact .of_delete h
  | checking interval =>
    cases hnext
    exact .of_check h
  | placing =>
    cases hnext
    exact .of_bind h
  | resting u s d => cases hnext
  | waiting interval => cases hnext
  | finished final => cases hnext

theorem remains_sleep {now : Timestamp} {phase after : EvictionPhase} {d : Delay}
    (hnext : x.next e now phase = .sleep d after) (h : Remains x e result after trace) :
    Remains x e result phase trace := by
  cases phase with
  | resting u s d =>
    cases hnext
    exact h
  | waiting interval =>
    cases hnext
    exact h
  | reading u s => cases hnext
  | writing u s changed => cases hnext
  | deleting => cases hnext
  | checking interval => cases hnext
  | placing => cases hnext
  | finished final => cases hnext

/-! ### A whole run -/

theorem remains_of_run {phase : EvictionPhase}
    (h : Run (x.next e) phase trace (.finished result)) : Remains x e result phase trace :=
  h.induct_back (Remains x e result) (fun _ _ _ _ _ _ hnext ih ↦ remains_call hnext ih)
    (fun _ _ _ _ _ hnext ih ↦ remains_sleep hnext ih) ⟨rfl, rfl⟩

/-- A finished eviction begins with attempts to reserve the node. -/
theorem updates_of_run (h : Run (x.next e) x.begin trace (.finished result)) :
    Updates x e result .reserve x.retry.start trace := remains_of_run h

end PodPlacement.Evictor
