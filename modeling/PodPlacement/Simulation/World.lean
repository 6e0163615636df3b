import PodPlacement.Orchestrator.Memory
import PodPlacement.Service.Queues
import PodPlacement.Service.Relay
import PodPlacement.Service.Worker
import PodPlacement.Simulation.Turns

/-!
All services together in one place, against an orchestrator in memory and a clock that only moves
when everybody waits. Activities take turns; one keeps its turn until it has to wait.
-/

namespace PodPlacement

inductive Activity
  /-- A worker that is about to take up its queue. -/
  | opening
  | working (current : Option (Delivery × RequestPhase))
  | openingRelay
  | relaying
  | holding (h : Hold) (waited : Bool)
  | feeding (intervalMs : Nat) (waiting : Bool)
  | refreshing (intervalMs : Nat) (listings : List Listing) (waiting : Bool)
  | preempting (job : PreemptionJob) (phase : JobPhase)
  | ended (result : Except ServiceError Unit)

structure Task where
  id : Nat
  activity : Activity
  /-- Whether the activity has been told to end; preemptions never are. -/
  cancelled : Bool := false

/-- A place in the line of activities that can go on. One that waits for a batch of tasks goes to
the end of the line twice for it. -/
structure Turn where
  task : Nat
  detours : Nat := 0
deriving DecidableEq, Repr

structure Timer where
  dueMs : Nat
  task : Nat
deriving DecidableEq, Repr

structure World where
  nowMs : Nat := 0
  scheduler : Scheduler
  worker : Worker
  memory : Memory := {}
  /-- What the next calls come to before they reach the orchestrator, by their names; `none` lets a
  call pass. -/
  scripts : Table (List (Option ClusterError)) := ∅
  cache : Cache := {}
  queues : Queues := ∅
  feeder : Feeder
  /-- Whether scheduling looks at the cache instead of the orchestrator. -/
  fromCache : Bool := false
  tasks : List Task := []
  ready : List Turn := []
  timers : List Timer := []
  /-- Settles delays that are not fixed. -/
  entropy : Generator := .ofSeed 0

namespace World

def now (w : World) : Timestamp := Timestamp.epoch.add (.ofMillis w.nowMs)

def snapshot (w : World) : Snapshot :=
  if w.fromCache then w.cache.snapshot else w.memory.cluster.snapshot

def call (w : World) (c : Call) : c.Answer × World :=
  match w.scripts.getD c.method [] with
  | [] =>
    let (answer, memory) := w.memory.perform c
    (answer, { w with memory })
  | outcome :: rest =>
    let w := { w with scripts := w.scripts.insert c.method rest }
    match outcome with
    | some e => (.error e, w)
    | none =>
      let (answer, memory) := w.memory.perform c
      (answer, { w with memory })

def decide (w : World) (p : Pod) : Except SchedulingError Decision × Nat × World :=
  let snapshot := w.snapshot
  let turns := w.scheduler.turns snapshot p
  let (result, scheduler) := w.scheduler.schedule .inOrder .inOrder snapshot p
  (result, turns, { w with scheduler })

def pickDelay (w : World) (d : Delay) : Nat × World :=
  let (draw, entropy) := w.entropy.next32
  (d.pick draw, { w with entropy })

/-! ### Activities -/

def task? (w : World) (id : Nat) : Option Task := w.tasks.find? (·.id == id)

def putTask (w : World) (t : Task) : World :=
  { w with tasks := w.tasks.map fun u ↦ if u.id == t.id then t else u }

def spawn (w : World) (activity : Activity) : Nat × World :=
  let id := w.tasks.length
  (id, { w with tasks := w.tasks ++ [{ id, activity }], ready := w.ready ++ [{ task := id }] })

def wake (w : World) (id : Nat) : World :=
  if w.ready.any (·.task == id) then w else { w with ready := w.ready ++ [{ task := id }] }

def listensOn (w : World) (queue : String) : Activity → Bool
  | .working none => w.worker.config.receiveQueue == queue
  | .relaying => w.worker.config.backoffQueue == queue
  | _ => false

def send (w : World) (queue : String) (body : Body) : Except ServiceError Unit × World :=
  let (result, queues) := w.queues.send queue body
  let w := { w with queues }
  match result with
  | .ok () =>
    let listeners := w.tasks.filter fun t ↦ w.listensOn queue t.activity
    (.ok (), listeners.foldl (fun w t ↦ w.wake t.id) w)
  | .error e => (.error e, w)

def addTimer (w : World) (t : Timer) : World :=
  { w with timers := w.timers.takeWhile (·.dueMs ≤ t.dueMs) ++
      t :: w.timers.dropWhile (·.dueMs ≤ t.dueMs) }

def feedOnce (w : World) : Except ServiceError Nat × World :=
  let (result, feeder, w) := w.feeder.feedOnce (fun w body ↦ w.send w.feeder.queue body) w.now
    w.cache w
  (result, { w with feeder })

/-- What becomes of an activity after a step: it keeps its turn, steps aside, or waits. -/
inductive Move
  | keep
  | stepAside (turns : Nat)
  | wait
  | waitFor (ms : Nat)
deriving DecidableEq, Repr

def rest (ms : Nat) : Move := if ms = 0 then .keep else .waitFor ms

def act {σ : Type} (w : World) (wrap : σ → Activity) (final : Activity) :
    ServiceAction σ → World × Activity × Move
  | .call c resume =>
    let (answer, w) := w.call c
    (w, wrap (resume answer), .keep)
  | .decide p resume =>
    let (result, turns, w) := w.decide p
    (w, wrap (resume result .zero), .stepAside turns)
  | .send queue body resume =>
    let (result, w) := w.send queue body
    (w, wrap (resume result), .keep)
  | .launch job next =>
    let (_, w) := w.spawn (.preempting job (job.begin w.worker))
    (w, wrap next, .keep)
  | .sleep d next =>
    let (ms, w) := w.pickDelay d
    (w, wrap next, rest ms)
  | .done => (w, final, .wait)

/-- A request that has reached an outcome is acknowledged, one that failed is dropped. -/
def settleDelivery (w : World) (d : Delivery) : Except ServiceError Outcome → World
  | .ok _ => { w with queues := w.queues.acknowledge d }
  | .error _ => { w with queues := w.queues.release d }

def stepWorker (w : World) (cancelled : Bool) :
    Option (Delivery × RequestPhase) → World × Activity × Move
  | none =>
    let queue := w.worker.config.receiveQueue
    if cancelled then
      ({ w with queues := w.queues.close queue }, .ended (.ok ()), .wait)
    else
      match w.queues.take? queue with
      | some (d, queues) => ({ w with queues }, .working (some (d, w.worker.begin d.body)), .keep)
      | none => (w, .working none, .wait)
  | some (d, phase) =>
    match Worker.result? phase with
    | some result => (w.settleDelivery d result, .working none, .keep)
    | none => w.act (fun phase ↦ .working (some (d, phase))) (.working none)
        (w.worker.next w.now phase)

def stepRelay (w : World) (cancelled : Bool) : World × Activity × Move :=
  let queue := w.worker.config.backoffQueue
  if cancelled then ({ w with queues := w.queues.close queue }, .ended (.ok ()), .wait)
  else
    match w.queues.take? queue with
    | none => (w, .relaying, .wait)
    | some (d, queues) =>
      let w := { w with queues }
      let w := match Hold.ofBody? queue d.body with
        | some h => (w.spawn (.holding h false)).2
        | none => w
      ({ w with queues := w.queues.acknowledge d }, .relaying, .keep)

def stepHold (w : World) (h : Hold) (waited cancelled : Bool) : World × Activity × Move :=
  if cancelled then (w, .ended (.ok ()), .wait)
  else if waited || h.waitMs = 0 then
    ((w.send h.queue h.body).2, .ended (.ok ()), .wait)
  else (w, .holding h true, .waitFor h.waitMs)

/-- Takes up a queue as its consumer; a queue that has had one cannot be taken up. -/
def takeUp (w : World) (queue : String) (running : Activity) : World × Activity × Move :=
  let (result, queues) := w.queues.receive queue
  let w := { w with queues }
  match result with
  | .ok () => (w, running, .keep)
  | .error e => (w, .ended (.error e), .wait)

def nextListing : List Listing → Listing × List Listing
  | [] => ({}, [])
  | [last] => (last, [last])
  | l :: more => (l, more)

def stepActivity (w : World) (t : Task) : World × Activity × Move :=
  match t.activity with
  | .opening => w.takeUp w.worker.config.receiveQueue (.working none)
  | .working current => w.stepWorker t.cancelled current
  | .openingRelay => w.takeUp w.worker.config.backoffQueue .relaying
  | .relaying => w.stepRelay t.cancelled
  | .holding h waited => w.stepHold h waited t.cancelled
  | .feeding ms waiting =>
    if waiting && t.cancelled then (w, .ended (.ok ()), .wait)
    else ((w.feedOnce).2, .feeding ms true, rest ms)
  | .refreshing ms listings waiting =>
    if waiting && t.cancelled then (w, .ended (.ok ()), .wait)
    else
      let (listing, listings) := nextListing listings
      let cache := (w.cache.syncFrom listing).toOption.getD w.cache
      ({ w with cache }, .refreshing ms listings true, rest ms)
  | .preempting job phase =>
    w.act (.preempting job) (.ended (.ok ())) (job.next w.worker w.now phase)
  | .ended result => (w, .ended result, .wait)

def step (w : World) : World :=
  match w.ready with
  | [] => w
  | turn :: ready =>
    let w := { w with ready }
    match turn.detours, w.task? turn.task with
    | detours + 1, _ => { w with ready := w.ready ++ [{ turn with detours }] }
    | 0, none => w
    | 0, some t =>
      let (w, activity, move) := w.stepActivity t
      let w := w.putTask { t with activity }
      match move with
      | .keep | .stepAside 0 => { w with ready := turn :: w.ready }
      | .stepAside (n + 1) =>
        { w with ready := w.ready ++ [{ turn with detours := 2 * n + 1 }] }
      | .wait => w
      | .waitFor ms => w.addTimer ⟨w.nowMs + Delay.boundedMs ms, t.id⟩

end World

end PodPlacement
