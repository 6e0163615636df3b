/-!
What can go wrong, in three layers: talking to the cluster, deciding a placement, and running the
queues and caches around that. Each error has a message for the log, a stable code, and advice.
-/

namespace PodPlacement

inductive ClusterError
  | notFound (key : String)
  | conflict (key detail : String)
  | invalidObject (reason suggestion : String)
  | invalidQuantity (text reason : String)
  | transport (detail : String)
  | serialization (detail : String)
  | internal (detail : String)
deriving DecidableEq, Repr, Inhabited

inductive SchedulingError
  | unschedulable (workload reason : String)
  | preemptionExhausted (workload reason : String)
  | plugin (detail : String)
  | framework (detail suggestion : String)
  | retriesExhausted (operation : String) (attempts : Nat)
  | preemptionFailed (workload victim node detail : String)
  | cluster (cause : ClusterError)
  | internal (detail : String)
deriving DecidableEq, Repr, Inhabited

inductive ServiceError
  | queueUnavailable (queue detail : String)
  | cacheSyncTimeout (seconds : Nat)
  | malformedMessage (queue detail : String)
  | invalidConfig (detail suggestion : String)
  | cluster (cause : ClusterError)
  | scheduling (cause : SchedulingError)
  | internal (detail : String)
deriving DecidableEq, Repr, Inhabited

namespace ClusterError

def message : ClusterError → String
  | notFound key => "Object not found: " ++ key
  | conflict key detail => "Conflict detected for " ++ key ++ ": " ++ detail
  | invalidObject reason _ => "Invalid object: " ++ reason
  | invalidQuantity text reason => "Invalid quantity '" ++ text ++ "': " ++ reason
  | transport detail => "Transport error: " ++ detail
  | serialization detail => "Serialization error: " ++ detail
  | internal detail => "Internal error: " ++ detail

def code : ClusterError → String
  | notFound .. => "corral::not_found"
  | conflict .. => "corral::conflict"
  | invalidObject .. => "corral::invalid_object"
  | invalidQuantity .. => "corral::invalid_quantity"
  | transport .. => "corral::transport_error"
  | serialization .. => "corral::serialization_error"
  | internal .. => "corral::internal_error"

def advice : ClusterError → String
  | notFound .. =>
    "The object may have been deleted. Verify the namespace and name are correct"
  | conflict .. =>
    "The object was modified concurrently. Re-read the latest version and retry"
  | invalidObject _ suggestion => suggestion
  | invalidQuantity .. =>
    "Use a Kubernetes quantity such as '500m', '2', '128Mi' or '1Gi'"
  | transport .. => "Check that the orchestrator API endpoint is reachable"
  | serialization .. => "Ensure the payload format is valid JSON or YAML"
  | internal .. => "This is likely a bug. Please report it with the full error details"

def isNotFound : ClusterError → Bool
  | notFound .. => true
  | _ => false

def isConflict : ClusterError → Bool
  | conflict .. => true
  | _ => false

end ClusterError

namespace SchedulingError

def message : SchedulingError → String
  | unschedulable workload reason =>
    "Workload " ++ workload ++ " is unschedulable: " ++ reason
  | preemptionExhausted workload reason =>
    "Preemption not possible for workload " ++ workload ++ ": " ++ reason
  | plugin detail => "Plugin error: " ++ detail
  | framework detail _ => "Framework configuration error: " ++ detail
  | retriesExhausted operation attempts =>
    "Retries exhausted for " ++ operation ++ " after " ++ toString attempts ++ " attempts"
  | preemptionFailed workload victim node detail =>
    "Preemption of " ++ victim ++ " on node " ++ node ++ " for " ++ workload ++ " failed: " ++
      detail
  | cluster cause => cause.message
  | internal detail => "Internal error: " ++ detail

def code : SchedulingError → String
  | unschedulable .. => "scheduler::unschedulable"
  | preemptionExhausted .. => "scheduler::preemption_exhausted"
  | plugin .. => "scheduler::plugin_error"
  | framework .. => "scheduler::framework_error"
  | retriesExhausted .. => "scheduler::retries_exhausted"
  | preemptionFailed .. => "scheduler::preemption_failed"
  | cluster cause => cause.code
  | internal .. => "scheduler::internal_error"

def advice : SchedulingError → String
  | unschedulable .. => "Check node resources, taints, and workload requirements"
  | preemptionExhausted .. =>
    "Only nodes that fail solely on resources can be freed by evicting a lower priority " ++
      "workload in the same namespace"
  | plugin .. => "This aborts the current attempt only. Inspect the named plugin"
  | framework _ suggestion => suggestion
  | retriesExhausted .. =>
    "The object is being modified concurrently. The caller decides whether to retry later or " ++
      "give up"
  | preemptionFailed .. =>
    "The node reservation has been released. The workload can be rescheduled"
  | cluster cause => cause.advice
  | internal .. => "This is likely a bug. Please report it"

/-- The outcomes that are answered with a longer wait and, in the end, by giving up. -/
def isUnschedulable : SchedulingError → Bool
  | unschedulable .. | preemptionExhausted .. => true
  | _ => false

end SchedulingError

namespace ServiceError

def message : ServiceError → String
  | queueUnavailable queue detail => "Queue '" ++ queue ++ "' is unavailable: " ++ detail
  | cacheSyncTimeout seconds => "Cluster cache not synced after " ++ toString seconds ++ "s"
  | malformedMessage queue detail => "Malformed message on '" ++ queue ++ "': " ++ detail
  | invalidConfig detail _ => "Invalid configuration: " ++ detail
  | cluster cause => cause.message
  | scheduling cause => cause.message
  | internal detail => "Internal runtime error: " ++ detail

def code : ServiceError → String
  | queueUnavailable .. => "corral::runtime::queue_unavailable"
  | cacheSyncTimeout .. => "corral::runtime::cache_sync_timeout"
  | malformedMessage .. => "corral::runtime::malformed_message"
  | invalidConfig .. => "corral::runtime::invalid_config"
  | cluster cause => cause.code
  | scheduling cause => cause.code
  | internal .. => "corral::runtime::internal_error"

def advice : ServiceError → String
  | queueUnavailable .. =>
    "Each queue supports a single consumer. Check that only one worker or relay receives from it"
  | cacheSyncTimeout .. => "Verify the orchestrator API is reachable and lists nodes and pods"
  | malformedMessage .. =>
    "Schedule requests are JSON objects with key, lastBackoffTime, processedTime and message"
  | invalidConfig _ suggestion => suggestion
  | cluster cause => cause.advice
  | scheduling cause => cause.advice
  | internal .. =>
    "This is likely a bug in corral-runtime. Please report it with the full error details"

end ServiceError

end PodPlacement
