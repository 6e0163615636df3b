import PodPlacement.Scheduling.Settings.Codec
import PodPlacement.Service.Settings
import PodPlacement.Yaml.Printer
import PodPlacement.Yaml.Reader

/-!
The configuration of one scheduler process.
-/

namespace PodPlacement

open Document Text

structure Config where
  apiUrl : String := "http://127.0.0.1:6443"
  /-- Pods that ask for a scheduler of this name are picked up. -/
  schedulerName : String := "corral-scheduler"
  refreshSeconds : Nat := 5
  feedSeconds : Nat := 2
  /-- How long the first full listing may take. -/
  syncSeconds : Nat := 30
  scheduler : SchedulerSettings := {}
  worker : WorkerConfig := {}
deriving Repr, Inhabited

inductive ConfigError
  /-- The file cannot be read. -/
  | unreadable (path : String)
  | malformed
  | badPercentage (n : Nat)
  | sameQueue (name : String)
  | zeroBackoff
deriving DecidableEq, Repr

structure Overrides where
  apiUrl : Option String := none
  schedulerName : Option String := none
  receiveQueue : Option String := none
  backoffQueue : Option String := none
  hostname : Option String := none
  maxBackoff : Option Nat := none
  samplingPercentage : Option Nat := none
  seed : Option Nat := none
  disablePreemption : Bool := false
deriving DecidableEq, Repr, Inhabited

namespace ConfigError

def cause? : ConfigError → Option ClusterError
  | unreadable path =>
    some (.serialization
      ("Failed to read " ++ path ++ ": No such file or directory (os error 2)"))
  | malformed => some (.serialization "Failed to deserialize from YAML")
  | _ => none

def message : ConfigError → String
  | unreadable path => (cause? (unreadable path)).elim "" ClusterError.message
  | malformed => (cause? malformed).elim "" ClusterError.message
  | badPercentage n => "sampling_percentage must be between 1 and 100, got " ++ toString n
  | sameQueue name => "receive and backoff queues must differ, both are '" ++ name ++ "'"
  | zeroBackoff => "max_backoff must be at least 1 second"

end ConfigError

namespace Config

def standard : Config := {}

def fieldNames : List String :=
  ["api_url", "scheduler_name", "refresh_interval_secs", "feed_interval_secs", "sync_timeout_secs",
    "scheduler", "worker"]

def read? {δ : Type} [Document δ] (d : δ) : Option Config := do
  let f ← Fields.read fieldNames d
  let apiUrl ← f.optional "api_url" standard.apiUrl text?
  let schedulerName ← f.optional "scheduler_name" standard.schedulerName text?
  let refreshSeconds ←
    f.optional "refresh_interval_secs" standard.refreshSeconds (natural? .unsigned64)
  let feedSeconds ← f.optional "feed_interval_secs" standard.feedSeconds (natural? .unsigned64)
  let syncSeconds ← f.optional "sync_timeout_secs" standard.syncSeconds (natural? .unsigned64)
  let scheduler ← f.optional "scheduler" standard.scheduler SchedulerSettings.read?
  let worker ← f.optional "worker" standard.worker WorkerConfig.read?
  return { apiUrl, schedulerName, refreshSeconds, feedSeconds, syncSeconds, scheduler, worker }

def toConfig (c : Config) : ConfigValue :=
  .record [("api_url", .text c.apiUrl), ("scheduler_name", .text c.schedulerName),
    ("refresh_interval_secs", .ofNat c.refreshSeconds),
    ("feed_interval_secs", .ofNat c.feedSeconds), ("sync_timeout_secs", .ofNat c.syncSeconds),
    ("scheduler", c.scheduler.toConfig), ("worker", c.worker.toConfig)]

def render (c : Config) : String := Yaml.render c.toConfig

def override (c : Config) (o : Overrides) : Config :=
  { c with
    apiUrl := o.apiUrl.getD c.apiUrl
    schedulerName := o.schedulerName.getD c.schedulerName
    worker := { c.worker with
      receiveQueue := o.receiveQueue.getD c.worker.receiveQueue
      backoffQueue := o.backoffQueue.getD c.worker.backoffQueue
      hostname := o.hostname.getD c.worker.hostname
      maxBackoff := o.maxBackoff.getD c.worker.maxBackoff }
    scheduler := { c.scheduler with
      samplingPercentage := o.samplingPercentage.getD c.scheduler.samplingPercentage
      seed := o.seed.or c.scheduler.seed
      disablePreemption := o.disablePreemption || c.scheduler.disablePreemption } }

def validate (c : Config) : Except ConfigError Unit :=
  let percentage := c.scheduler.samplingPercentage
  if percentage < 1 ∨ 100 < percentage then .error (.badPercentage percentage)
  else if c.worker.receiveQueue = c.worker.backoffQueue then
    .error (.sameQueue c.worker.receiveQueue)
  else if c.worker.maxBackoff = 0 then .error .zeroBackoff
  else .ok ()

def load (file : Option (String × Option String)) : Except ConfigError Config :=
  match file with
  | none => .ok standard
  | some (path, none) => .error (.unreadable path)
  | some (_, some text) =>
    match (Yaml.parse? text).bind read? with
    | some c => .ok c
    | none => .error .malformed

def resolve (file : Option (String × Option String)) (o : Overrides) :
    Except ConfigError Config := do
  let c := (← load file).override o
  c.validate
  return c

end Config

end PodPlacement
