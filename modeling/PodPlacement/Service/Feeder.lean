import PodPlacement.Service.Cache
import PodPlacement.Service.Message

/-!
The feeder asks for the scheduling of pending pods, once for each incarnation of a pod. It forgets a
pod that is no longer pending, so a pod that becomes pending again is asked for again.
-/

namespace PodPlacement

def Pod.givenUpPhase : String := "PodBackoffExceeded"

structure Incarnation where
  key : String
  uid : String
deriving DecidableEq, Repr, Inhabited

def Pod.incarnation? (p : Pod) : Option Incarnation :=
  p.keyText?.map fun key ↦ ⟨key, p.metadata.uid.getD ""⟩

def Pod.waitingSince (p : Pod) (now : Timestamp) : Duration :=
  p.metadata.created.elim .zero fun created ↦ created.elapsed now

structure Feeder where
  queue : String
  schedulerName : String
  published : List Incarnation := []
deriving Inhabited

namespace Feeder

def pending (f : Feeder) (c : Cache) : List (Pod × Incarnation) :=
  ((c.pendingPods f.schedulerName).filter (·.phase != Pod.givenUpPhase)).filterMap fun p ↦
    p.incarnation?.map (p, ·)

def request (now : Timestamp) (p : Pod) (i : Incarnation) : ScheduleRequest where
  key := i.key
  processed := p.waitingSince now

variable {γ : Type}

/-- Sends the requests in turn and stops at the first that cannot be sent. -/
def publish (send : γ → Body → Except ServiceError Unit × γ) (now : Timestamp) (f : Feeder)
    (g : γ) (sent : Nat) : List (Pod × Incarnation) → Except ServiceError Nat × Feeder × γ
  | [] => (.ok sent, f, g)
  | (p, i) :: rest =>
    match send g (request now p i).encode with
    | (.ok (), g) =>
      publish send now { f with published := f.published ++ [i] } g (sent + 1) rest
    | (.error e, g) => (.error e, f, g)

/-- Sends a request for each pending incarnation that has none yet; the answer is their number. -/
def feedOnce (send : γ → Body → Except ServiceError Unit × γ) (now : Timestamp) (c : Cache)
    (f : Feeder) (g : γ) : Except ServiceError Nat × Feeder × γ :=
  let due := f.pending c
  let published := f.published.filter (due.map (·.2)).contains
  let f := { f with published }
  publish send now f g 0 (due.filter fun d ↦ !published.contains d.2)

end Feeder

end PodPlacement
