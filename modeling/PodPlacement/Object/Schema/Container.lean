import PodPlacement.Object.Schema.Volume

/-!
Shapes of containers: what they run, how they are probed, and what they reported last.
-/

namespace PodPlacement.Schema

def command : Schema := object <| optional texts ["command"]

def httpGet : Schema := object <|
  optional text ["host", "path", "scheme"] ++
  optional (list (object (required text ["name", "value"]))) ["httpHeaders"] ++
  required intOrText ["port"]

def tcpSocket : Schema := object <| optional text ["host"] ++ required intOrText ["port"]

def probe : Schema := object <|
  optional command ["exec"] ++
  optional int32 ["failureThreshold", "initialDelaySeconds", "periodSeconds", "successThreshold",
    "timeoutSeconds"] ++
  optional (object (required int32 ["port"] ++ optional text ["service"])) ["grpc"] ++
  optional httpGet ["httpGet"] ++
  optional tcpSocket ["tcpSocket"] ++
  optional int64 ["terminationGracePeriodSeconds"]

def handler : Schema := object <|
  optional command ["exec"] ++ optional httpGet ["httpGet"] ++
  optional (object (required int64 ["seconds"])) ["sleep"] ++
  optional tcpSocket ["tcpSocket"]

def typedProfile : Schema := object <| optional text ["localhostProfile"] ++ required text ["type"]

def seLinuxOptions : Schema := object <| optional text ["level", "role", "type", "user"]

def windowsOptions : Schema := object <|
  optional text ["gmsaCredentialSpec", "gmsaCredentialSpecName", "runAsUserName"] ++
  optional flag ["hostProcess"]

def containerSecurity : Schema := object <|
  optional flag ["allowPrivilegeEscalation", "privileged", "readOnlyRootFilesystem",
    "runAsNonRoot"] ++
  optional typedProfile ["appArmorProfile", "seccompProfile"] ++
  optional (object (optional texts ["add", "drop"])) ["capabilities"] ++
  optional text ["procMount"] ++
  optional int64 ["runAsGroup", "runAsUser"] ++
  optional seLinuxOptions ["seLinuxOptions"] ++
  optional windowsOptions ["windowsOptions"]

def keySelector : Schema := object <|
  required text ["key", "name"] ++ optional flag ["optional"]

def environmentVariable : Schema := object <|
  required text ["name"] ++ optional text ["value"] ++
  optional (object (optional keySelector ["configMapKeyRef", "secretKeyRef"] ++
    optional fieldSelector ["fieldRef"] ++
    optional resourceFieldSelector ["resourceFieldRef"])) ["valueFrom"]

def environmentSource : Schema := object <|
  optional (object (required text ["name"] ++ optional flag ["optional"]))
    ["configMapRef", "secretRef"] ++
  optional text ["prefix"]

def containerPort : Schema := object <|
  required int32 ["containerPort"] ++ optional int32 ["hostPort"] ++
  optional text ["hostIP", "name", "protocol"]

def volumeMount : Schema := object <|
  required text ["mountPath", "name"] ++
  optional text ["mountPropagation", "recursiveReadOnly", "subPath", "subPathExpr"] ++
  optional flag ["readOnly"]

def containerFields : List Field :=
  optional texts ["args", "command"] ++
  optional (list environmentVariable) ["env"] ++
  optional (list environmentSource) ["envFrom"] ++
  required text ["name"] ++
  optional text ["image", "imagePullPolicy", "restartPolicy", "terminationMessagePath",
    "terminationMessagePolicy", "workingDir"] ++
  optional (object (optional handler ["postStart", "preStop"])) ["lifecycle"] ++
  optional probe ["livenessProbe", "readinessProbe", "startupProbe"] ++
  optional (list containerPort) ["ports"] ++
  optional (list (object (required text ["resourceName", "restartPolicy"]))) ["resizePolicy"] ++
  optional resourceClaims ["resources"] ++
  optional containerSecurity ["securityContext"] ++
  optional flag ["stdin", "stdinOnce", "tty"] ++
  optional (list (object (required text ["devicePath", "name"]))) ["volumeDevices"] ++
  optional (list volumeMount) ["volumeMounts"]

def container : Schema := object containerFields

def ephemeralContainer : Schema := object <|
  containerFields ++ optional text ["targetContainerName"]

def containerState : Schema := object <|
  optional (object (optional timestamp ["startedAt"])) ["running"] ++
  optional (object (optional text ["containerID", "message", "reason"] ++
    required int32 ["exitCode"] ++ optional timestamp ["finishedAt", "startedAt"] ++
    optional int32 ["signal"])) ["terminated"] ++
  optional (object (optional text ["message", "reason"])) ["waiting"]

def containerStatus : Schema := object <|
  optional quantities ["allocatedResources"] ++
  optional (list (object (required text ["name"] ++
    optional (list (object (optional text ["health"] ++ required text ["resourceID"])))
      ["resources"]))) ["allocatedResourcesStatus"] ++
  optional text ["containerID"] ++
  required text ["image", "imageID", "name"] ++
  optional containerState ["lastState", "state"] ++
  required flag ["ready"] ++
  optional resourceClaims ["resources"] ++
  required int32 ["restartCount"] ++
  optional flag ["started"] ++
  optional (object (optional (object (required int64 ["gid", "uid"] ++
    optional (list int64) ["supplementalGroups"])) ["linux"])) ["user"] ++
  optional (list (object (required text ["mountPath", "name"] ++ optional flag ["readOnly"] ++
    optional text ["recursiveReadOnly"]))) ["volumeMounts"]

end PodPlacement.Schema
