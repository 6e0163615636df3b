import PodPlacement.Proofs.Service.Course

/-!
What a preemption in the background comes to: its pod is bound, or the request is sent back, and
never both.
-/

namespace PodPlacement

def Deed.binds : Deed → Bool
  | called (.bind _ _) (.ok _) => true
  | _ => false

/-! ### Evictions -/

def NodeUpdate.isBound : NodeUpdate → Bool
  | release (.ok _) => true
  | _ => false

def EvictionPhase.isBound : EvictionPhase → Bool
  | reading u _ | writing u _ _ | resting u _ _ => u.isBound
  | finished (.ok _) => true
  | _ => false

namespace Evictor

variable {x : Evictor} {e : Eviction} {now : Timestamp} {stage : EvictionPhase}

theorem isBound_conclude (e : Eviction) (u : NodeUpdate) (result : Except SchedulingError Bool) :
    (conclude e u result).isBound = u.isBound := by
  cases u with
  | reserve =>
    cases result with
    | ok reserved => cases reserved <;> rfl
    | error cause => rfl
  | release outcome => cases outcome <;> rfl

theorem isBound_settle (x : Evictor) (e : Eviction) (u : NodeUpdate) (s : RetryState)
    (outcome : Except ClusterError Bool) : (x.settle e u s outcome).isBound = u.isBound := by
  unfold settle
  split
  · exact isBound_conclude e u _
  · rfl

theorem isBound_afterRead (x : Evictor) (e : Eviction) (now : Timestamp) (u : NodeUpdate)
    (s : RetryState) (answer : Except ClusterError Node) :
    (x.afterRead e now u s answer).isBound = u.isBound := by
  unfold afterRead
  split
  · exact isBound_settle x e u s _
  · split
    · rfl
    · exact isBound_settle x e u s _

theorem isBound_of_call {call : Call} {resume : call.Answer → EvictionPhase}
    (h : x.next e now stage = .call call resume) (answer : call.Answer) :
    (resume answer).isBound = (stage.isBound || (Deed.called call answer).binds) := by
  cases stage with
  | reading u s =>
    cases h
    exact (isBound_afterRead x e now u s answer).trans (Bool.or_false _).symm
  | writing u s n =>
    cases h
    exact (isBound_settle x e u s _).trans (Bool.or_false _).symm
  | resting u s d => cases h
  | deleting =>
    cases h
    change (x.afterDelete e answer).isBound = false
    unfold afterDelete
    split
    · rfl
    · split <;> rfl
  | checking interval =>
    cases h
    change (afterCheck e interval answer).isBound = false
    unfold afterCheck
    split <;> split <;> rfl
  | waiting interval => cases h
  | placing =>
    cases h
    cases answer <;> rfl
  | finished result => cases h

theorem isBound_of_sleep {d : Delay} {later : EvictionPhase}
    (h : x.next e now stage = .sleep d later) : later.isBound = stage.isBound := by
  cases stage with
  | resting u s d => cases h; rfl
  | waiting interval => cases h; rfl
  | _ => cases h

end Evictor

/-! ### Preemptions -/

def JobPhase.isBound : JobPhase → Bool
  | evicting _ stage => stage.isBound
  | reporting _ | requeueing _ => false
  | finished => true

structure RunningJob where
  job : PreemptionJob
  phase : JobPhase
  /-- Its pod has been bound. -/
  bound : Bool := false

namespace RunningJob

variable {w : Worker} {p : RunningJob} {now : Timestamp} {deed : Deed} {after : JobPhase}

def start (w : Worker) (job : PreemptionJob) : RunningJob := { job, phase := job.begin w }

def advance (p : RunningJob) (deed : Deed) (after : JobPhase) : RunningJob :=
  { p with phase := after, bound := p.bound || deed.binds }

def Honest (p : RunningJob) : Prop := p.bound = p.phase.isBound

theorem honest_start (w : Worker) (job : PreemptionJob) : (start w job).Honest := by
  change false = (job.begin w).isBound
  unfold PreemptionJob.begin
  split <;> rfl

theorem isBound_proceed (e : Eviction) (stage : EvictionPhase) :
    (PreemptionJob.proceed e stage).isBound = stage.isBound := by
  unfold PreemptionJob.proceed PreemptionJob.afterEviction
  split
  · split <;> rfl
  · rfl

/-- A preemption sends nothing as long as it has to do with the pod. Once it has failed and sent the
request back, it is finished. -/
theorem does_cases (hhonest : p.Honest) (h : (p.job.next w now p.phase).Does deed after) :
    (deed.sending? = none ∧ (p.advance deed after).Honest) ∨
      ∃ cause, deed.sending? = some (w.config.backoffQueue, (p.job.retry w cause).encode) ∧
        after = .finished ∧ (p.advance deed after).bound = false := by
  -- The phase tells whether the pod is bound, so the cases need not look at `bound`.
  obtain ⟨job, phase, bound⟩ := p
  unfold Honest at hhonest
  dsimp only at h hhonest
  subst hhonest
  cases phase with
  | evicting e stage =>
    unfold PreemptionJob.next at h
    dsimp only at h
    split at h
    · next call resume hcall =>
      cases h with
      | call answer =>
        refine .inl ⟨rfl, ?_⟩
        change (stage.isBound || _) = (PreemptionJob.proceed e (resume answer)).isBound
        rw [isBound_proceed, Evictor.isBound_of_call hcall]
    · next d later hsleep =>
      cases h
      refine .inl ⟨rfl, ?_⟩
      change (stage.isBound || false) = (PreemptionJob.proceed e later).isBound
      rw [isBound_proceed, Evictor.isBound_of_sleep hsleep, Bool.or_false]
    · cases h
  | reporting cause =>
    cases h with
    | call answer => exact .inl ⟨rfl, rfl⟩
  | requeueing cause =>
    cases h
    exact .inr ⟨cause, rfl, rfl, rfl⟩
  | finished => cases h

end RunningJob

end PodPlacement
