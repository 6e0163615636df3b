import PodPlacement.Object.Schema.Meta

/-!
The shapes of a node and of an event.
-/

namespace PodPlacement.Schema

def taint : Schema := object <|
  required text ["effect", "key"] ++ optional timestamp ["timeAdded"] ++ optional text ["value"]

def configSource : Schema := object <|
  optional (object (required text ["kubeletConfigKey", "name", "namespace"] ++
    optional text ["resourceVersion", "uid"])) ["configMap"]

def nodeSpec : Schema := object <|
  optional configSource ["configSource"] ++
  optional text ["externalID", "podCIDR", "providerID"] ++
  optional texts ["podCIDRs"] ++
  optional (list taint) ["taints"] ++
  optional flag ["unschedulable"]

def nodeCondition : Schema := object <|
  optional timestamp ["lastHeartbeatTime", "lastTransitionTime"] ++
  optional text ["message", "reason"] ++ required text ["status", "type"]

def nodeStatus : Schema := object <|
  optional (list (object (required text ["address", "type"]))) ["addresses"] ++
  optional quantities ["allocatable", "capacity"] ++
  optional (list nodeCondition) ["conditions"] ++
  optional (object (optional configSource ["active", "assigned", "lastKnownGood"] ++
    optional text ["error"])) ["config"] ++
  optional (object (optional (object (required int32 ["Port"])) ["kubeletEndpoint"]))
    ["daemonEndpoints"] ++
  optional (object (optional flag ["supplementalGroupsPolicy"])) ["features"] ++
  optional (list (object (optional texts ["names"] ++ optional int64 ["sizeBytes"])))
    ["images"] ++
  optional (object (required text ["architecture", "bootID", "containerRuntimeVersion",
    "kernelVersion", "kubeProxyVersion", "kubeletVersion", "machineID", "operatingSystem",
    "osImage", "systemUUID"])) ["nodeInfo"] ++
  optional text ["phase"] ++
  optional (list (object (optional (object (optional flag ["recursiveReadOnlyMounts",
    "userNamespaces"])) ["features"] ++ optional text ["name"]))) ["runtimeHandlers"] ++
  optional (list (object (required text ["devicePath", "name"]))) ["volumesAttached"] ++
  optional texts ["volumesInUse"]

def node : Schema := object <|
  required metadata ["metadata"] ++ optional nodeSpec ["spec"] ++ optional nodeStatus ["status"]

def event : Schema := object <|
  optional text ["action", "message", "reason", "reportingComponent", "reportingInstance",
    "type"] ++
  optional int32 ["count"] ++
  optional microTimestamp ["eventTime"] ++
  optional timestamp ["firstTimestamp", "lastTimestamp"] ++
  required objectReference ["involvedObject"] ++
  required metadata ["metadata"] ++
  optional objectReference ["related"] ++
  optional (object (optional int32 ["count"] ++ optional microTimestamp ["lastObservedTime"]))
    ["series"] ++
  optional (object (optional text ["component", "host"])) ["source"]

end PodPlacement.Schema
