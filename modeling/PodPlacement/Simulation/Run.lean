import PodPlacement.Simulation.World

/-!
Using the simulated world from outside: the caller does one thing at a time, and the activities go
on while the caller waits. Everything is bounded by the number of steps that the caller allows.
-/

namespace PodPlacement.World

def patience : Nat := 1000000

def drain : Nat → World → World
  | 0, w => w
  | steps + 1, w => if w.ready.isEmpty then w else drain steps w.step

def settle (w : World) : World := w.drain patience

def moveClock (w : World) (ms : Nat) : World :=
  let (due, timers) := w.timers.partition (·.dueMs ≤ ms)
  due.foldl (fun w t ↦ w.wake t.task) { w with nowMs := ms, timers }

def waitUntil (deadline : Nat) : Nat → World → World
  | 0, w => w
  | steps + 1, w =>
    let w := w.settle
    match w.timers with
    | t :: _ =>
      if t.dueMs < deadline then waitUntil deadline steps (w.moveClock t.dueMs)
      else w.moveClock deadline
    | [] => w.moveClock deadline

def sleep (w : World) (ms : Nat) : World :=
  if ms = 0 then w else waitUntil (w.nowMs + Delay.boundedMs ms) patience w

def yields : Nat → World → World
  | 0, w => w
  | turns + 1, w => yields turns w.settle

def decideAndWait (w : World) (p : Pod) : Except SchedulingError Decision × World :=
  let (result, turns, w) := w.decide p
  (result, w.yields turns)

def runRequest : Nat → RequestPhase → World → Except ServiceError Outcome × World
  | 0, _, w => (.error (.internal "out of patience"), w)
  | steps + 1, phase, w =>
    match Worker.result? phase with
    | some result => (result, w)
    | none =>
      match w.worker.next w.now phase with
      | .call c resume =>
        let (answer, w) := w.call c
        runRequest steps (resume answer) w
      | .decide p resume =>
        let (result, w) := w.decideAndWait p
        runRequest steps (resume result .zero) w
      | .send queue body resume =>
        let (result, w) := w.send queue body
        runRequest steps (resume result) w
      | .launch job next =>
        let (_, w) := w.spawn (.preempting job (job.begin w.worker))
        runRequest steps next w
      | .sleep d next =>
        let (ms, w) := w.pickDelay d
        runRequest steps next (w.sleep ms)
      | .done => (.error (.internal "no outcome"), w)

def process (w : World) (body : Body) : Except ServiceError Outcome × World :=
  runRequest patience (w.worker.begin body) w

def runEviction (e : Eviction) : Nat → EvictionPhase → World → Except SchedulingError Unit × World
  | 0, _, w => (.error (.internal "out of patience"), w)
  | steps + 1, phase, w =>
    match phase, w.worker.evictor.next e w.now phase with
    | .finished result, _ => (result, w)
    | _, .call c resume =>
      let (answer, w) := w.call c
      runEviction e steps (resume answer) w
    | _, .sleep d next =>
      let (ms, w) := w.pickDelay d
      runEviction e steps next (w.sleep ms)
    | _, .done => (.error (.internal "no result"), w)

def evict (w : World) (host : String) (preemptor victim : Pod) :
    Except SchedulingError Unit × World :=
  match Eviction.ofPods host preemptor victim with
  | .error e => (.error e, w)
  | .ok e => runEviction e patience w.worker.evictor.begin w

def waitForSync (seconds deadline : Nat) : Nat → World → Except ServiceError Unit × World
  | 0, w => (.error (.internal "out of patience"), w)
  | steps + 1, w =>
    if w.cache.synced then (.ok (), w)
    else if deadline ≤ w.nowMs then (.error (.cacheSyncTimeout seconds), w)
    else
      let w := w.settle
      if w.cache.synced then (.ok (), w)
      else
        let stop := match w.timers with
          | t :: _ => min t.dueMs deadline
          | [] => deadline
        waitForSync seconds deadline steps (w.moveClock stop)

def syncWithin (w : World) (ms : Nat) : Except ServiceError Unit × World :=
  waitForSync (ms / 1000) (w.nowMs + Delay.boundedMs ms) patience w

/-! ### Starting and ending services -/

def isEnded (w : World) (id : Nat) : Bool :=
  match w.task? id with
  | some { activity := .ended _, .. } => true
  | _ => false

def waitForEnd (ids : List Nat) : Nat → World → World
  | 0, w => w
  | steps + 1, w =>
    let w := w.settle
    if ids.all w.isEnded then w
    else
      match w.timers with
      | t :: _ => waitForEnd ids steps (w.moveClock t.dueMs)
      | [] => w

def heedsCancel : Activity → Bool
  | .preempting .. | .ended _ => false
  | _ => true

/-- Tells every activity but the preemptions to end, and waits for the given ones. -/
def cancel (w : World) (ids : List Nat) : World :=
  let told := w.tasks.filter fun t ↦ heedsCancel t.activity
  let tasks := w.tasks.map fun t ↦
    if heedsCancel t.activity then { t with cancelled := true } else t
  let idle := told.filter fun t ↦
    match t.activity with
    | .working (some _) => false
    | _ => true
  let w := idle.foldl (fun w t ↦ w.wake t.id) { w with tasks }
  waitForEnd ids patience w

def result? (w : World) (id : Nat) : Option (Except ServiceError Unit) :=
  match w.task? id with
  | some { activity := .ended result, .. } => some result
  | _ => none

end PodPlacement.World
