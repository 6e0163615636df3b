import PodPlacement.Config.Value
import PodPlacement.Document

/-!
The queues a worker serves, the host it reports, and how patient it is.
-/

namespace PodPlacement

open Document Text

structure WorkerConfig where
  /-- Where schedule requests arrive. -/
  receiveQueue : String := "corral.schedule"
  /-- Where retries wait. -/
  backoffQueue : String := "corral.backoff"
  hostname : String := ""
  /-- The wait in seconds at which a workload is given up on. -/
  maxBackoff : Nat := 256
deriving DecidableEq, Repr, Inhabited

namespace WorkerConfig

def standard : WorkerConfig := {}

def read? {δ : Type} [Document δ] (d : δ) : Option WorkerConfig := do
  let f ← Fields.read ["receive_queue", "backoff_queue", "hostname", "max_backoff"] d
  let receiveQueue ← f.optional "receive_queue" standard.receiveQueue text?
  let backoffQueue ← f.optional "backoff_queue" standard.backoffQueue text?
  let hostname ← f.optional "hostname" standard.hostname text?
  let maxBackoff ← f.optional "max_backoff" standard.maxBackoff (natural? .unsigned64)
  return { receiveQueue, backoffQueue, hostname, maxBackoff }

def toConfig (c : WorkerConfig) : ConfigValue :=
  .record [("receive_queue", .text c.receiveQueue), ("backoff_queue", .text c.backoffQueue),
    ("hostname", .text c.hostname), ("max_backoff", .ofNat c.maxBackoff)]

end WorkerConfig

end PodPlacement
