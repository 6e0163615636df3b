import PodPlacement.Orchestrator.Action
import PodPlacement.Scheduling.Retry

/-!
Making room for a pod: hold the room back on the node by a condition, delete the victim, wait until
it is gone, place the pod, and take the condition away again. The condition names the victim, so no
victim is taken twice; it is taken away also when a later step fails.
-/

namespace PodPlacement

structure Evictor where
  settings : PreemptionSettings
  retry : RetryConfig

namespace Eviction

def ofPods (host : String) (preemptor victim : Pod) : Except SchedulingError Eviction :=
  match WorkloadKey.ofPod preemptor, WorkloadKey.ofPod victim with
  | .ok preemptorKey, .ok victimKey => .ok { host, preemptor, victim, preemptorKey, victimKey }
  | .error e, _ => .error (.cluster e)
  | _, .error e => .error (.cluster e)

def reservation (e : Eviction) : String := e.preemptor.request.toReservation

def failure (e : Eviction) (cause : SchedulingError) : SchedulingError :=
  .preemptionFailed e.preemptorKey.text e.victimKey.text e.host cause.message

def alreadyReserved (e : Eviction) : SchedulingError :=
  .preemptionExhausted e.preemptorKey.text
    (e.victimKey.text ++ " on node " ++ e.host ++ " is already reserved by another preemption")

end Eviction

namespace Node

def reservesFor (victim : String) (c : NodeCondition) : Bool :=
  c.type == preemptionType && c.message == some victim

def withConditions (n : Node) (conditions : List NodeCondition) : Node :=
  { n with status := some { n.status.getD {} with conditions := some conditions } }

def reserve? (n : Node) (victim reservation : String) (now : Timestamp) : Option Node :=
  if n.conditions.any (reservesFor victim) then none
  else
    some (n.withConditions (n.conditions ++
      [{ type := preemptionType, status := "True", reason := some reservation,
         message := some victim, changed := some now }]))

def release? (n : Node) (victim : String) : Option Node :=
  if n.conditions.any (reservesFor victim) then
    some (n.withConditions (n.conditions.filter fun c ↦ !reservesFor victim c))
  else none

end Node

/-- What an update of the node is for: to begin an eviction, or to end it with its result. -/
inductive NodeUpdate
  | reserve
  | release (result : Except SchedulingError Unit)

inductive EvictionPhase
  | reading (u : NodeUpdate) (s : RetryState)
  | writing (u : NodeUpdate) (s : RetryState) (n : Node)
  | resting (u : NodeUpdate) (s : RetryState) (d : Delay)
  | deleting
  | checking (intervalMs : Nat)
  | waiting (intervalMs : Nat)
  | placing
  | finished (result : Except SchedulingError Unit)

namespace Evictor

def firstPollMs : Nat := 100

def pollCeiling (x : Evictor) : Nat := max x.settings.maxPollMs 1

def firstInterval (x : Evictor) : Nat := min firstPollMs x.pollCeiling

def nextInterval (x : Evictor) (intervalMs : Nat) : Nat := min (intervalMs * 2) x.pollCeiling

def pollDelay (intervalMs : Nat) : Delay := ⟨intervalMs / 2, intervalMs⟩

def begin (x : Evictor) : EvictionPhase := .reading .reserve x.retry.start

def finish (x : Evictor) (result : Except SchedulingError Unit) : EvictionPhase :=
  .reading (.release result) x.retry.start

def operation : NodeUpdate → String
  | .reserve => "reserve node for preemption"
  | .release _ => "release preemption reservation"

/-- Goes on after an update has come to its end. For a reservation the answer says whether it is
ours; how a release ended makes no difference any more. -/
def conclude (e : Eviction) : NodeUpdate → Except SchedulingError Bool → EvictionPhase
  | .reserve, .ok true => .deleting
  | .reserve, .ok false => .finished (.error e.alreadyReserved)
  | .reserve, .error cause => .finished (.error cause)
  | .release result, _ => .finished result

def settle (x : Evictor) (e : Eviction) (u : NodeUpdate) (s : RetryState)
    (outcome : Except ClusterError Bool) : EvictionPhase :=
  match x.retry.judge (operation u) s outcome with
  | .finish result => conclude e u result
  | .rest d => .resting u (x.retry.advance s) d

def edit (e : Eviction) (now : Timestamp) (u : NodeUpdate) (n : Node) : Option Node :=
  match u with
  | .reserve => n.reserve? e.victimKey.text e.reservation now
  | .release _ => n.release? e.victimKey.text

def afterRead (x : Evictor) (e : Eviction) (now : Timestamp) (u : NodeUpdate) (s : RetryState) :
    Except ClusterError Node → EvictionPhase
  | .error cause => x.settle e u s (.error cause)
  | .ok n =>
    match edit e now u n with
    | some n => .writing u s n
    | none => x.settle e u s (.ok false)

def afterDelete (x : Evictor) (e : Eviction) : Except ClusterError Unit → EvictionPhase
  | .ok () => .checking x.firstInterval
  | .error cause =>
    if cause.isNotFound then .checking x.firstInterval
    else x.finish (.error (e.failure (.cluster cause)))

/-- Only a missing victim, or another pod under its key, ends the wait. -/
def afterCheck (e : Eviction) (intervalMs : Nat) : Except ClusterError Pod → EvictionPhase
  | .ok current =>
    if current.metadata.uid = e.victim.metadata.uid then .waiting intervalMs else .placing
  | .error cause => if cause.isNotFound then .placing else .waiting intervalMs

def afterBind (x : Evictor) (e : Eviction) : Except ClusterError Unit → EvictionPhase
  | .ok () => x.finish (.ok ())
  | .error cause => x.finish (.error (e.failure (.cluster cause)))

def deleteOptions (x : Evictor) : DeleteOptions :=
  ⟨x.settings.graceSeconds, .background⟩

def next (x : Evictor) (e : Eviction) (now : Timestamp) : EvictionPhase → Action EvictionPhase
  | .reading u s => .call (.getNode e.host) (x.afterRead e now u s)
  | .writing u s n =>
    .call (.updateNodeStatus n) fun r ↦ x.settle e u s (r.map fun _ ↦ true)
  | .resting u s d => .sleep d (.reading u s)
  | .deleting =>
    .call (.deleteWorkload e.victimKey.space e.victimKey.name x.deleteOptions) (x.afterDelete e)
  | .checking interval =>
    .call (.getWorkload e.victimKey.space e.victimKey.name) (afterCheck e interval)
  | .waiting interval => .sleep (pollDelay interval) (.checking (x.nextInterval interval))
  | .placing => .call (.bind e.preemptor e.host) (x.afterBind e)
  | .finished _ => .done

end Evictor

end PodPlacement
