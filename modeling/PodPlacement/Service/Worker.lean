import PodPlacement.Scheduling.Eviction
import PodPlacement.Service.Feeder
import PodPlacement.Service.Notice
import PodPlacement.Service.Settings

/-!
The worker takes schedule requests one at a time and brings each to an outcome: the pod is bound,
a preemption is under way, the request waits for another attempt, or it is given up. Preemptions run
in the background and put the request back when they fail.
-/

namespace PodPlacement

inductive Outcome
  | bound (node : String)
  | preempting (node victim : String)
  /-- The request waits so many seconds. -/
  | retrying (backoff : Nat)
  | gaveUp
  /-- There was nothing to do: no readable request, no such workload, or one with a node. -/
  | dropped
deriving DecidableEq, Repr, Inhabited

structure PreemptionJob where
  request : ScheduleRequest
  pod : Pod
  node : String
  victim : Pod
deriving Inhabited

inductive ServiceAction (σ : Type)
  | call (c : Call) (resume : c.Answer → σ)
  /-- A scheduling attempt; the duration tells how long the request has been worked on. -/
  | decide (p : Pod) (resume : Except SchedulingError Decision → Duration → σ)
  | send (queue : String) (body : Body) (resume : Except ServiceError Unit → σ)
  | launch (job : PreemptionJob) (next : σ)
  | sleep (d : Delay) (next : σ)
  | done

structure Worker where
  config : WorkerConfig
  retry : RetryConfig
  evictor : Evictor

inductive RequestPhase
  | fetching (r : ScheduleRequest) (key : WorkloadKey)
  | deciding (r : ScheduleRequest) (p : Pod)
  | binding (r : ScheduleRequest) (p : Pod) (node : String)
  | launching (job : PreemptionJob) (victimKey : WorkloadKey)
  | warning (r : ScheduleRequest) (p : Pod)
  | publishing (r : ScheduleRequest)
  | partingNotice (p : Pod) (reason : String)
  | markReading (key : WorkloadKey) (s : RetryState)
  | markWriting (key : WorkloadKey) (s : RetryState) (p : Pod)
  | markResting (key : WorkloadKey) (s : RetryState) (d : Delay)
  | finished (result : Except ServiceError Outcome)

namespace Pod

def discoverTimeAnnotation : String := "corral.io/discover-time"

def schedulingTimeAnnotation : String := "corral.io/scheduling-time"

def annotate (p : Pod) (discover scheduling : Duration) : Pod :=
  let annotations := ((p.metadata.annotations.getD ∅).insert discoverTimeAnnotation
    discover.text).insert schedulingTimeAnnotation scheduling.text
  { p with metadata := { p.metadata with annotations := some annotations } }

def withPhase (p : Pod) (phase : String) : Pod :=
  { p with status := some { p.status.getD {} with phase := some phase } }

end Pod

namespace Worker

def failedReason : String := "FailedScheduling"

def markOperation : String := "mark backoff exceeded"

def begin (w : Worker) (body : Body) : RequestPhase :=
  match decodeMessage ScheduleRequest.read? w.config.receiveQueue body with
  | .error _ => .finished (.ok .dropped)
  | .ok r =>
    match WorkloadKey.parse r.key with
    | .error _ => .finished (.ok .dropped)
    | .ok key => .fetching r key

/-- Another attempt after the same wait as before. -/
def requeue (r : ScheduleRequest) (reason : String) : RequestPhase :=
  .publishing { r with message := reason }

/-- Twice the last wait in 64 bits, at least a second and at most the configured maximum. -/
def growBackoff (w : Worker) (last : Nat) : Nat :=
  max 1 (min (last * 2 % 0x10000000000000000) (max w.config.maxBackoff 1))

/-- Another attempt after a longer wait, unless the longest wait has passed already. -/
def backOff (w : Worker) (r : ScheduleRequest) (p : Pod) (reason : String) : RequestPhase :=
  if w.config.maxBackoff ≤ r.lastBackoff then .partingNotice p reason
  else .warning { r with lastBackoff := w.growBackoff r.lastBackoff, message := reason } p

def afterFetch (r : ScheduleRequest) : Except ClusterError Pod → RequestPhase
  | .ok p => if p.nodeName?.isSome then .finished (.ok .dropped) else .deciding r p
  | .error e => if e.isNotFound then .finished (.ok .dropped) else requeue r e.message

def afterDecision (w : Worker) (r : ScheduleRequest) (p : Pod)
    (result : Except SchedulingError Decision) (elapsed : Duration) : RequestPhase :=
  match result with
  | .error e => if e.isUnschedulable then w.backOff r p e.message else requeue r e.message
  | .ok decision =>
    let p := p.annotate r.processed elapsed
    match decision.victim with
    | none => .binding r p decision.host
    | some victim =>
      match WorkloadKey.ofPod victim with
      | .error e => .finished (.error (.cluster e))
      | .ok key => .launching ⟨r, p, decision.host, victim⟩ key

def afterBind (r : ScheduleRequest) (node : String) : Except ClusterError Unit → RequestPhase
  | .ok () => .finished (.ok (.bound node))
  | .error e => requeue r e.message

def afterPublish (r : ScheduleRequest) : Except ServiceError Unit → RequestPhase
  | .ok () => .finished (.ok (.retrying r.lastBackoff))
  | .error e => .finished (.error e)

/-- Whether or not the mark could be set, the request is given up. -/
def settleMark (w : Worker) (key : WorkloadKey) (s : RetryState)
    (outcome : Except ClusterError Unit) : RequestPhase :=
  match w.retry.judge markOperation s outcome with
  | .finish _ => .finished (.ok .gaveUp)
  | .rest d => .markResting key (w.retry.advance s) d

def beginMark (w : Worker) (p : Pod) : RequestPhase :=
  match WorkloadKey.ofPod p with
  | .error _ => .finished (.ok .gaveUp)
  | .ok key => .markReading key w.retry.start

def afterMarkRead (w : Worker) (key : WorkloadKey) (s : RetryState) :
    Except ClusterError Pod → RequestPhase
  | .ok p => .markWriting key s (p.withPhase Pod.givenUpPhase)
  | .error e => w.settleMark key s (.error e)

def event (w : Worker) (now : Timestamp) (p : Pod) (type message : String) : Call :=
  .createEvent (.aboutPod now p type failedReason message w.config.hostname)

def retryNotice (r : ScheduleRequest) : String :=
  "Scheduler will retry in " ++ toString r.lastBackoff ++ " seconds; Reason: " ++ r.message

def partingText (reason : String) : String :=
  "Scheduler will not retry scheduling; Reason: " ++ reason

def retryRequest (w : Worker) (r : ScheduleRequest) : RetryRequest := ⟨r, w.config.receiveQueue⟩

def next (w : Worker) (now : Timestamp) : RequestPhase → ServiceAction RequestPhase
  | .fetching r key => .call (.getWorkload key.space key.name) (afterFetch r)
  | .deciding r p => .decide p (w.afterDecision r p)
  | .binding r p node => .call (.bind p node) (afterBind r node)
  | .launching job key => .launch job (.finished (.ok (.preempting job.node key.text)))
  | .warning r p =>
    .call (w.event now p Event.warningType (retryNotice r)) fun _ ↦ .publishing r
  | .publishing r =>
    .send w.config.backoffQueue (w.retryRequest r).encode (afterPublish r)
  | .partingNotice p reason =>
    .call (w.event now p Event.fatalType (partingText reason)) fun _ ↦ w.beginMark p
  | .markReading key s => .call (.getWorkload key.space key.name) (w.afterMarkRead key s)
  | .markWriting key s p =>
    .call (.updateWorkloadStatus p) fun r ↦ w.settleMark key s (r.map fun _ ↦ ())
  | .markResting key s d => .sleep d (.markReading key s)
  | .finished _ => .done

def result? : RequestPhase → Option (Except ServiceError Outcome)
  | .finished result => some result
  | _ => none

end Worker

/-! ### Preemptions in the background -/

inductive JobPhase
  | evicting (e : Eviction) (phase : EvictionPhase)
  | reporting (cause : SchedulingError)
  | requeueing (cause : SchedulingError)
  | finished

namespace PreemptionJob

def failedReason : String := "PreemptionFailed"

def afterEviction : Except SchedulingError Unit → JobPhase
  | .ok () => .finished
  | .error cause => .reporting cause

def begin (w : Worker) (job : PreemptionJob) : JobPhase :=
  match Eviction.ofPods job.node job.pod job.victim with
  | .ok e => .evicting e w.evictor.begin
  | .error cause => .reporting cause

def retry (w : Worker) (job : PreemptionJob) (cause : SchedulingError) : RetryRequest :=
  w.retryRequest { job.request with message := cause.message }

def proceed (e : Eviction) : EvictionPhase → JobPhase
  | .finished result => afterEviction result
  | phase => .evicting e phase

def next (w : Worker) (job : PreemptionJob) (now : Timestamp) : JobPhase → ServiceAction JobPhase
  | .evicting e phase =>
    match w.evictor.next e now phase with
    | .call c resume => .call c fun r ↦ proceed e (resume r)
    | .sleep d phase => .sleep d (proceed e phase)
    | .done => .done
  | .reporting cause =>
    .call (.createEvent (.aboutPod now job.pod Event.warningType failedReason cause.message
      w.config.hostname)) fun _ ↦ .requeueing cause
  | .requeueing cause =>
    .send w.config.backoffQueue (job.retry w cause).encode fun _ ↦ .finished
  | .finished => .done

end PreemptionJob

end PodPlacement
