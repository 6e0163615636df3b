import PodPlacement.Proofs.Service.Message
import PodPlacement.Service.Relay
import PodPlacement.Service.Worker

/-!
What a service does, whatever it is answered, and what one attempt at a request comes to.
-/

namespace PodPlacement

inductive Deed
  | called (c : Call) (answer : c.Answer)
  | decided (p : Pod) (result : Except SchedulingError Decision)
  | sent (queue : String) (body : Body) (answer : Except ServiceError Unit)
  | launched (job : PreemptionJob)
  | slept (d : Delay)

namespace Deed

def refuses : Deed → Bool
  | decided _ (.error e) => e.isUnschedulable
  | _ => false

def sending? : Deed → Option (String × Body)
  | sent queue body _ => some (queue, body)
  | _ => none

end Deed

variable {σ : Type}

/-- How an action can be done: everything may get every answer, and a scheduling attempt may take
any time. -/
inductive ServiceAction.Does : ServiceAction σ → Deed → σ → Prop
  | call {c : Call} {resume : c.Answer → σ} (answer : c.Answer) :
      Does (.call c resume) (.called c answer) (resume answer)
  | decide {p : Pod} {resume : Except SchedulingError Decision → Duration → σ}
      (result : Except SchedulingError Decision) (elapsed : Duration) :
      Does (.decide p resume) (.decided p result) (resume result elapsed)
  | send {queue : String} {body : Body} {resume : Except ServiceError Unit → σ}
      (answer : Except ServiceError Unit) :
      Does (.send queue body resume) (.sent queue body answer) (resume answer)
  | launch {job : PreemptionJob} {after : σ} : Does (.launch job after) (.launched job) after
  | sleep {d : Delay} {after : σ} : Does (.sleep d after) (.slept d) after

/-- Steps that lead from one state to another, with what was done on the way. -/
inductive Course (next : Timestamp → σ → ServiceAction σ) : σ → List Deed → σ → Prop
  | stay (a : σ) : Course next a [] a
  | step {a b c : σ} {deed : Deed} {deeds : List Deed} (now : Timestamp) :
      (next now a).Does deed b → Course next b deeds c → Course next a (deed :: deeds) c

namespace Worker

/-- What can come of one attempt at the request `r`: whether it was found to be unschedulable, what
was sent, and the result. -/
inductive Fate (w : Worker) (r : ScheduleRequest) :
    Bool → List (String × Body) → Except ServiceError Outcome → Prop
  | settled {result : Except ServiceError Outcome} : result ≠ .ok .gaveUp →
      (∀ wait, result ≠ .ok (.retrying wait)) → Fate w r false [] result
  | requeued (reason : String) (answer : Except ServiceError Unit) :
      Fate w r false
        [(w.config.backoffQueue, (w.retryRequest { r with message := reason }).encode)]
        (answer.map fun _ ↦ .retrying r.lastBackoff)
  | postponed (reason : String) (answer : Except ServiceError Unit) :
      r.lastBackoff < w.config.maxBackoff →
      Fate w r true
        [(w.config.backoffQueue, (w.retryRequest
          { r with lastBackoff := w.growBackoff r.lastBackoff, message := reason }).encode)]
        (answer.map fun _ ↦ .retrying (w.growBackoff r.lastBackoff))
  | gaveUp : w.config.maxBackoff ≤ r.lastBackoff → Fate w r true [] (.ok .gaveUp)

def Remains (w : Worker) (result : Except ServiceError Outcome) : RequestPhase → List Deed → Prop
  | .fetching r _, deeds | .deciding r _, deeds =>
    Fate w r (deeds.any (·.refuses)) (deeds.filterMap (·.sending?)) result
  | .binding r _ _, deeds => deeds.any (·.refuses) = false ∧
    Fate w r false (deeds.filterMap (·.sending?)) result
  | .launching _ _, deeds => deeds.any (·.refuses) = false ∧ deeds.filterMap (·.sending?) = [] ∧
    ∃ node victim, result = .ok (.preempting node victim)
  | .warning r _, deeds | .publishing r, deeds => deeds.any (·.refuses) = false ∧
    deeds.filterMap (·.sending?) = [(w.config.backoffQueue, (w.retryRequest r).encode)] ∧
    ∃ answer : Except ServiceError Unit, result = answer.map fun _ ↦ .retrying r.lastBackoff
  | .partingNotice _ _, deeds | .markReading _ _, deeds | .markWriting _ _ _, deeds
  | .markResting _ _ _, deeds => deeds.any (·.refuses) = false ∧
    deeds.filterMap (·.sending?) = [] ∧ result = .ok .gaveUp
  | .finished final, deeds => deeds = [] ∧ result = final

variable {w : Worker} {result : Except ServiceError Outcome} {deeds : List Deed}
  {r : ScheduleRequest}

theorem Fate.of_requeue {reason : String} (h : Remains w result (requeue r reason) deeds) :
    Fate w r (deeds.any (·.refuses)) (deeds.filterMap (·.sending?)) result := by
  obtain ⟨hrefused, hsent, answer, rfl⟩ := h
  rw [hrefused, hsent]
  exact .requeued reason answer

theorem Fate.of_backOff {p : Pod} {reason : String}
    (h : Remains w result (w.backOff r p reason) deeds) :
    Fate w r true (deeds.filterMap (·.sending?)) result := by
  unfold backOff at h
  split at h
  · next hlong =>
    obtain ⟨_, hsent, rfl⟩ := h
    rw [hsent]
    exact .gaveUp hlong
  · next hshort =>
    obtain ⟨_, hsent, answer, rfl⟩ := h
    rw [hsent]
    exact .postponed reason answer (Nat.lt_of_not_le hshort)

theorem Fate.of_fetch {answer : Except ClusterError Pod}
    (h : Remains w result (afterFetch r answer) deeds) :
    Fate w r (deeds.any (·.refuses)) (deeds.filterMap (·.sending?)) result := by
  unfold afterFetch at h
  split at h
  · split at h
    · obtain ⟨rfl, rfl⟩ := h
      exact .settled nofun nofun
    · exact h
  · split at h
    · obtain ⟨rfl, rfl⟩ := h
      exact .settled nofun nofun
    · exact .of_requeue h

theorem Fate.of_decision {p : Pod} {decision : Except SchedulingError Decision}
    {elapsed : Duration} (h : Remains w result (w.afterDecision r p decision elapsed) deeds) :
    Fate w r ((Deed.decided p decision :: deeds).any (·.refuses)) (deeds.filterMap (·.sending?))
      result := by
  unfold afterDecision at h
  split at h
  · next cause =>
    have hany : (Deed.decided p (.error cause) :: deeds).any (·.refuses) =
        (cause.isUnschedulable || deeds.any (·.refuses)) := rfl
    rw [hany]
    split at h
    · next hrefused =>
      rw [hrefused, Bool.true_or]
      exact .of_backOff h
    · next hother =>
      rw [Bool.eq_false_iff.2 hother, Bool.false_or]
      exact .of_requeue h
  · next decision =>
    have hany : (Deed.decided p (.ok decision) :: deeds).any (·.refuses) =
        deeds.any (·.refuses) := rfl
    rw [hany]
    dsimp only at h
    split at h
    · obtain ⟨hrefused, hfate⟩ := h
      rwa [hrefused]
    · split at h
      · obtain ⟨rfl, rfl⟩ := h
        exact .settled nofun nofun
      · obtain ⟨hrefused, hsent, node, victim, rfl⟩ := h
        rw [hrefused, hsent]
        exact .settled nofun nofun

theorem remains_settleMark {key : WorkloadKey} {s : RetryState}
    {outcome : Except ClusterError Unit} (h : Remains w result (w.settleMark key s outcome) deeds) :
    deeds.any (·.refuses) = false ∧ deeds.filterMap (·.sending?) = [] ∧ result = .ok .gaveUp := by
  unfold settleMark at h
  split at h
  · obtain ⟨rfl, rfl⟩ := h
    exact ⟨rfl, rfl, rfl⟩
  · exact h

theorem remains_step {now : Timestamp} {phase after : RequestPhase} {deed : Deed}
    (hdoes : (w.next now phase).Does deed after) (h : Remains w result after deeds) :
    Remains w result phase (deed :: deeds) := by
  cases phase with
  | fetching r key =>
    cases hdoes with
    | call answer =>
      have hfate := Fate.of_fetch h
      exact hfate
  | deciding r p =>
    cases hdoes with
    | decide decision elapsed => exact Fate.of_decision h
  | binding r p node =>
    cases hdoes with
    | call answer =>
      cases answer with
      | ok _ =>
        obtain ⟨rfl, rfl⟩ := h
        exact ⟨rfl, .settled nofun nofun⟩
      | error cause =>
        have hfate := Fate.of_requeue h
        obtain ⟨hrefused, _⟩ := h
        rw [hrefused] at hfate
        exact ⟨hrefused, hfate⟩
  | launching job key =>
    cases hdoes with
    | launch =>
      obtain ⟨rfl, rfl⟩ := h
      exact ⟨rfl, rfl, job.node, key.text, rfl⟩
  | warning r p =>
    cases hdoes with
    | call answer => exact h
  | publishing r =>
    cases hdoes with
    | send answer =>
      cases answer with
      | ok _ =>
        obtain ⟨rfl, rfl⟩ := h
        exact ⟨rfl, rfl, .ok (), rfl⟩
      | error cause =>
        obtain ⟨rfl, rfl⟩ := h
        exact ⟨rfl, rfl, .error cause, rfl⟩
  | partingNotice p reason =>
    cases hdoes with
    | call answer =>
      unfold beginMark at h
      split at h
      · obtain ⟨rfl, rfl⟩ := h
        exact ⟨rfl, rfl, rfl⟩
      · exact h
  | markReading key s =>
    cases hdoes with
    | call answer =>
      cases answer with
      | ok p => exact h
      | error cause =>
        have hgaveUp := remains_settleMark h
        exact hgaveUp
  | markWriting key s p =>
    cases hdoes with
    | call answer =>
      have hgaveUp := remains_settleMark h
      exact hgaveUp
  | markResting key s d =>
    cases hdoes with
    | sleep => exact h
  | finished final => cases hdoes

theorem remains_of_course {phase : RequestPhase}
    (h : Course w.next phase deeds (.finished result)) : Remains w result phase deeds := by
  -- Backwards: at the end nothing remains, and each step adds its own deed.
  generalize hend : RequestPhase.finished result = last at h
  induction h with
  | stay =>
    subst hend
    exact ⟨rfl, rfl⟩
  | step now hdoes _ ih => exact remains_step hdoes (ih hend)

/-- A finished attempt at a request that can be read has come to one of its fates. -/
theorem fate_of_course {body : Body}
    (hbody : decodeMessage ScheduleRequest.read? w.config.receiveQueue body = .ok r)
    (h : Course w.next (w.begin body) deeds (.finished result)) :
    Fate w r (deeds.any (·.refuses)) (deeds.filterMap (·.sending?)) result := by
  have hremains := remains_of_course h
  unfold begin at hremains
  rw [hbody] at hremains
  dsimp only at hremains
  split at hremains
  · obtain ⟨rfl, rfl⟩ := hremains
    exact .settled nofun nofun
  · exact hremains

end Worker

end PodPlacement
