import PodPlacement.Proofs.Service.Exits

/-!
A preemption in the background: it carries out its eviction to the end, and if that fails it says so
and sends the request back.
-/

namespace PodPlacement

def Deed.call? : Deed → Option Answered
  | called c answer => some ⟨c, answer⟩
  | _ => none

namespace PreemptionJob

/-- The eviction of the job comes to this result, with these answers on the way. A job about a pod
without a name cannot even begin. -/
inductive Executes (w : Worker) (job : PreemptionJob) :
    List Answered → Except SchedulingError Unit → Prop
  | unnamed {cause : SchedulingError} :
      Eviction.ofPods job.node job.pod job.victim = .error cause →
      Executes w job [] (.error cause)
  | evicted {e : Eviction} {trace : List Answered} {result : Except SchedulingError Unit} :
      Eviction.ofPods job.node job.pod job.victim = .ok e →
      Run (w.evictor.next e) w.evictor.begin trace (.finished result) →
      Executes w job trace result

inductive Reports (w : Worker) (job : PreemptionJob) :
    Except SchedulingError Unit → List Deed → Prop
  | nothing : Reports w job (.ok ()) []
  | failure (cause : SchedulingError) (now : Timestamp) (recorded : Except ClusterError Unit)
      (answer : Except ServiceError Unit) :
      Reports w job (.error cause)
        [.called (.createEvent (.aboutPod now job.pod Event.warningType failedReason cause.message
            w.config.hostname)) recorded,
          .sent w.config.backoffQueue (job.retry w cause).encode answer]

variable {w : Worker} {job : PreemptionJob} {e : Eviction} {deeds : List Deed}

theorem course_afterEviction {result : Except SchedulingError Unit}
    (h : Course (job.next w) (afterEviction result) deeds .finished) :
    Reports w job result deeds := by
  cases result with
  | ok _ =>
    cases h with
    | stay => exact .nothing
    | step now hdoes => cases hdoes
  | error cause =>
    cases h with
    | step now hdoes hrest =>
      cases hdoes with
      | call recorded =>
        cases hrest with
        | step _ hdoes hrest =>
          cases hdoes with
          | send answer =>
            cases hrest with
            | stay => exact .failure cause now recorded answer
            | step _ hdoes => cases hdoes

theorem proceed_cases (e : Eviction) (stage : EvictionPhase) :
    (∃ result, stage = .finished result ∧ proceed e stage = afterEviction result) ∨
      proceed e stage = .evicting e stage := by
  cases stage with
  | finished result => exact .inl ⟨result, rfl, rfl⟩
  | _ => exact .inr rfl

/-- The job does what its eviction does, as long as the eviction goes on. -/
theorem course_proceed {stage : EvictionPhase}
    (h : Course (job.next w) (proceed e stage) deeds .finished) :
    ∃ executed result report, deeds = executed ++ report ∧
      Run (w.evictor.next e) stage (executed.filterMap (·.call?)) (.finished result) ∧
      executed.filterMap (·.sending?) = [] ∧ Reports w job result report := by
  -- A job is never left at an eviction that has ended, so its phases are those of `proceed`.
  generalize hstart : proceed e stage = start at h
  generalize hend : JobPhase.finished = last at h
  induction h generalizing stage with
  | stay phase =>
    subst hend
    rcases proceed_cases e stage with ⟨result, rfl, _⟩ | hgoing
    · cases result with
      | ok _ => exact ⟨[], .ok (), [], rfl, .stay _, rfl, .nothing⟩
      | error cause => cases hstart
    · cases hgoing.symm.trans hstart
  | step now hdoes hrest ih =>
    rcases proceed_cases e stage with ⟨result, rfl, hended⟩ | hgoing
    · have hcourse := Course.step now hdoes hrest
      rw [← hstart, hended, ← hend] at hcourse
      exact ⟨[], result, _, rfl, .stay _, rfl, course_afterEviction hcourse⟩
    · rw [← hstart, hgoing] at hdoes
      unfold PreemptionJob.next at hdoes
      dsimp only at hdoes
      split at hdoes
      · next c resume hcall =>
        cases hdoes with
        | call answer =>
          obtain ⟨executed, result, report, rfl, hrun, hsent, hreports⟩ := ih rfl hend
          exact ⟨.called c answer :: executed, result, report, rfl, .call now answer hcall hrun,
            hsent, hreports⟩
      · next d later hsleep =>
        cases hdoes with
        | sleep =>
          obtain ⟨executed, result, report, rfl, hrun, hsent, hreports⟩ := ih rfl hend
          exact ⟨.slept d :: executed, result, report, rfl, .sleep now hsleep hrun, hsent, hreports⟩
      · cases hdoes

/-- A job sends nothing unless its eviction fails, and then the request, with the wait it had. -/
theorem executes_and_reports (h : Course (job.next w) (job.begin w) deeds .finished) :
    ∃ executed report result, deeds = executed ++ report ∧
      Executes w job (executed.filterMap (·.call?)) result ∧
      (result = .ok () → deeds.filterMap (·.sending?) = []) ∧
      ∀ cause, result = .error cause → deeds.filterMap (·.sending?) = [(w.config.backoffQueue,
        RetryRequest.encode ⟨⟨job.request.key, job.request.lastBackoff, job.request.processed,
          cause.message⟩, w.config.receiveQueue⟩)] := by
  obtain ⟨executed, result, report, rfl, hexecutes, hsent, hreports⟩ :
      ∃ executed result report, deeds = executed ++ report ∧
        Executes w job (executed.filterMap (·.call?)) result ∧
        executed.filterMap (·.sending?) = [] ∧ Reports w job result report := by
    unfold PreemptionJob.begin at h
    split at h
    · next e he =>
      have hbegun : Course (job.next w) (proceed e w.evictor.begin) deeds .finished := h
      obtain ⟨executed, result, report, hsplit, hrun, hsent, hreports⟩ := course_proceed hbegun
      exact ⟨executed, result, report, hsplit, .evicted he hrun, hsent, hreports⟩
    · next cause hcause =>
      exact ⟨[], .error cause, deeds, rfl, .unnamed hcause, rfl, course_afterEviction h⟩
  refine ⟨executed, report, result, rfl, hexecutes, ?_, ?_⟩
  · rintro rfl
    cases hreports
    rw [List.append_nil, hsent]
  · rintro cause rfl
    cases hreports
    rw [List.filterMap_append, hsent]
    rfl

end PreemptionJob

end PodPlacement
