import PodPlacement.Error
import PodPlacement.Service.Body
import PodPlacement.Table

/-!
Queues in memory, by name. A queue keeps its messages in order for its only consumer, also those
sent before the consumer came. A message counts as acknowledged once, and only if its consumer says
so.
-/

namespace PodPlacement

inductive Consumer
  | awaited
  | present
  | gone
deriving DecidableEq, Repr, Inhabited

structure Queue where
  waiting : List Body := []
  consumer : Consumer := .awaited
  sent : Nat := 0
  /-- How many messages were handed out; this numbers the next one. -/
  read : Nat := 0
  /-- The numbers of the messages that are handed out and neither acknowledged nor dropped. -/
  held : List Nat := []
  acked : Nat := 0
deriving DecidableEq, Repr, Inhabited

/-- A message in the hands of a consumer. One that came over no queue has no source. -/
structure Delivery where
  body : Body
  source : Option (String × Nat) := none
deriving DecidableEq, Repr, Inhabited

namespace Queue

def send? (q : Queue) (body : Body) : Option Queue :=
  if q.consumer = .gone then none
  else some { q with waiting := q.waiting ++ [body], sent := q.sent + 1 }

def receive? (q : Queue) : Option Queue :=
  if q.consumer = .awaited then some { q with consumer := .present } else none

def take? (q : Queue) : Option (Nat × Body × Queue) :=
  match q.waiting with
  | [] => none
  | body :: rest =>
    some (q.read, body, { q with waiting := rest, read := q.read + 1, held := q.read :: q.held })

def acknowledge (q : Queue) (number : Nat) : Queue :=
  if q.held.contains number then
    { q with held := q.held.erase number, acked := q.acked + 1 }
  else q

def release (q : Queue) (number : Nat) : Queue := { q with held := q.held.erase number }

/-- The consumer leaves, and the messages that wait are lost. -/
def close (q : Queue) : Queue := { q with waiting := [], consumer := .gone }

end Queue

abbrev Queues := Table Queue

namespace Queues

def queue (qs : Queues) (name : String) : Queue := qs.getD name {}

def send (qs : Queues) (name : String) (body : Body) : Except ServiceError Unit × Queues :=
  match (qs.queue name).send? body with
  | some q => (.ok (), qs.insert name q)
  | none => (.error (.queueUnavailable name "consumer dropped"), qs)

def receive (qs : Queues) (name : String) : Except ServiceError Unit × Queues :=
  match (qs.queue name).receive? with
  | some q => (.ok (), qs.insert name q)
  | none => (.error (.queueUnavailable name "already has a consumer"), qs)

def take? (qs : Queues) (name : String) : Option (Delivery × Queues) :=
  (qs.queue name).take?.map fun (number, body, q) ↦
    ({ body, source := some (name, number) }, qs.insert name q)

def acknowledge (qs : Queues) (d : Delivery) : Queues :=
  match d.source with
  | some (name, number) => qs.insert name ((qs.queue name).acknowledge number)
  | none => qs

def release (qs : Queues) (d : Delivery) : Queues :=
  match d.source with
  | some (name, number) => qs.insert name ((qs.queue name).release number)
  | none => qs

def close (qs : Queues) (name : String) : Queues := qs.insert name (qs.queue name).close

def sent (qs : Queues) (name : String) : Nat := (qs.queue name).sent

def acked (qs : Queues) (name : String) : Nat := (qs.queue name).acked

end Queues

end PodPlacement
