import PodPlacement.Object.Schema.Container

/-!
The shape of a pod.
-/

namespace PodPlacement.Schema

def toleration : Schema := object <|
  optional text ["effect", "key", "operator", "value"] ++
  optional int64 ["tolerationSeconds"]

def nodeSelectorTerm : Schema := object <|
  optional (list selectorRequirement) ["matchExpressions", "matchFields"]

def nodeAffinity : Schema := object <|
  optional (list (object (required nodeSelectorTerm ["preference"] ++ required int32 ["weight"])))
    ["preferredDuringSchedulingIgnoredDuringExecution"] ++
  optional (object (required (list nodeSelectorTerm) ["nodeSelectorTerms"]))
    ["requiredDuringSchedulingIgnoredDuringExecution"]

def podAffinityTerm : Schema := object <|
  optional labelSelector ["labelSelector", "namespaceSelector"] ++
  optional texts ["matchLabelKeys", "mismatchLabelKeys", "namespaces"] ++
  required text ["topologyKey"]

def podAffinity : Schema := object <|
  optional (list (object (required podAffinityTerm ["podAffinityTerm"] ++
    required int32 ["weight"]))) ["preferredDuringSchedulingIgnoredDuringExecution"] ++
  optional (list podAffinityTerm) ["requiredDuringSchedulingIgnoredDuringExecution"]

def affinity : Schema := object <|
  optional nodeAffinity ["nodeAffinity"] ++ optional podAffinity ["podAffinity", "podAntiAffinity"]

def podSecurity : Schema := object <|
  optional typedProfile ["appArmorProfile", "seccompProfile"] ++
  optional int64 ["fsGroup", "runAsGroup", "runAsUser"] ++
  optional text ["fsGroupChangePolicy", "supplementalGroupsPolicy"] ++
  optional flag ["runAsNonRoot"] ++
  optional seLinuxOptions ["seLinuxOptions"] ++
  optional (list int64) ["supplementalGroups"] ++
  optional (list (object (required text ["name", "value"]))) ["sysctls"] ++
  optional windowsOptions ["windowsOptions"]

def spreadConstraint : Schema := object <|
  optional labelSelector ["labelSelector"] ++
  optional texts ["matchLabelKeys"] ++
  required int32 ["maxSkew"] ++
  optional int32 ["minDomains"] ++
  optional text ["nodeAffinityPolicy", "nodeTaintsPolicy"] ++
  required text ["topologyKey", "whenUnsatisfiable"]

def named : Schema := object <| required text ["name"]

def podSpec : Schema := object <|
  optional int64 ["activeDeadlineSeconds", "terminationGracePeriodSeconds"] ++
  optional affinity ["affinity"] ++
  optional flag ["automountServiceAccountToken", "enableServiceLinks", "hostIPC", "hostNetwork",
    "hostPID", "hostUsers", "setHostnameAsFQDN", "shareProcessNamespace"] ++
  required (list container) ["containers"] ++
  optional (list container) ["initContainers"] ++
  optional (list ephemeralContainer) ["ephemeralContainers"] ++
  optional (object (optional texts ["nameservers", "searches"] ++
    optional (list (object (optional text ["name", "value"]))) ["options"])) ["dnsConfig"] ++
  optional text ["dnsPolicy", "hostname", "nodeName", "preemptionPolicy", "priorityClassName",
    "restartPolicy", "runtimeClassName", "schedulerName", "serviceAccount", "serviceAccountName",
    "subdomain"] ++
  optional (list (object (optional texts ["hostnames"] ++ required text ["ip"])))
    ["hostAliases"] ++
  optional (list named) ["imagePullSecrets", "schedulingGates"] ++
  optional (table text) ["nodeSelector"] ++
  optional named ["os"] ++
  optional quantities ["overhead"] ++
  optional int32 ["priority"] ++
  optional (list (object (required text ["conditionType"]))) ["readinessGates"] ++
  optional (list (object (required text ["name"] ++
    optional text ["resourceClaimName", "resourceClaimTemplateName"]))) ["resourceClaims"] ++
  optional podSecurity ["securityContext"] ++
  optional (list toleration) ["tolerations"] ++
  optional (list spreadConstraint) ["topologySpreadConstraints"] ++
  optional (list volume) ["volumes"]

def podStatus : Schema := object <|
  optional (list (object (optional timestamp ["lastProbeTime", "lastTransitionTime"] ++
    optional text ["message", "reason"] ++ required text ["status", "type"]))) ["conditions"] ++
  optional (list containerStatus) ["containerStatuses", "ephemeralContainerStatuses",
    "initContainerStatuses"] ++
  optional text ["hostIP", "message", "nominatedNodeName", "phase", "podIP", "qosClass", "reason",
    "resize"] ++
  optional (list (object (required text ["ip"]))) ["hostIPs", "podIPs"] ++
  optional (list (object (required text ["name"] ++ optional text ["resourceClaimName"])))
    ["resourceClaimStatuses"] ++
  optional timestamp ["startTime"]

def pod : Schema := object <|
  required metadata ["metadata"] ++ optional podSpec ["spec"] ++ optional podStatus ["status"]

end PodPlacement.Schema
