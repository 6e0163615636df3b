import PodPlacement.Object.Schema.Meta

/-!
Shapes of the volumes a pod mounts.
-/

namespace PodPlacement.Schema

def keyToPath : Schema := object <| required text ["key", "path"] ++ optional int32 ["mode"]

def fieldSelector : Schema := object <|
  optional text ["apiVersion"] ++ required text ["fieldPath"]

def resourceFieldSelector : Schema := object <|
  optional text ["containerName", "divisor"] ++ required text ["resource"]

def downwardFile : Schema := object <|
  optional fieldSelector ["fieldRef"] ++ optional int32 ["mode"] ++ required text ["path"] ++
  optional resourceFieldSelector ["resourceFieldRef"]

def claimSpec : Schema := object <|
  optional texts ["accessModes"] ++
  optional (object (optional text ["apiGroup"] ++ required text ["kind", "name"]))
    ["dataSource"] ++
  optional (object (optional text ["apiGroup", "namespace"] ++ required text ["kind", "name"]))
    ["dataSourceRef"] ++
  optional resourceNeeds ["resources"] ++
  optional labelSelector ["selector"] ++
  optional text ["storageClassName", "volumeAttributesClassName", "volumeMode", "volumeName"]

def projection : Schema := object <|
  optional (object (optional labelSelector ["labelSelector"] ++
    optional text ["name", "signerName"] ++ optional flag ["optional"] ++
    required text ["path"])) ["clusterTrustBundle"] ++
  optional (object (optional (list keyToPath) ["items"] ++ required text ["name"] ++
    optional flag ["optional"])) ["configMap", "secret"] ++
  optional (object (optional (list downwardFile) ["items"])) ["downwardAPI"] ++
  optional (object (optional text ["audience"] ++ optional int64 ["expirationSeconds"] ++
    required text ["path"])) ["serviceAccountToken"]

def networkVolumes : List Field :=
  optional (object (required texts ["monitors"] ++ optional text ["path", "secretFile", "user"] ++
    optional flag ["readOnly"] ++ optional localReference ["secretRef"])) ["cephfs"] ++
  optional (object (optional text ["fsType"] ++ optional flag ["readOnly"] ++
    optional localReference ["secretRef"] ++ required text ["volumeID"])) ["cinder"] ++
  optional (object (required text ["endpoints", "path"] ++ optional flag ["readOnly"]))
    ["glusterfs"] ++
  optional (object (optional flag ["chapAuthDiscovery", "chapAuthSession", "readOnly"] ++
    optional text ["fsType", "initiatorName", "iscsiInterface"] ++
    required text ["iqn", "targetPortal"] ++ required int32 ["lun"] ++
    optional texts ["portals"] ++ optional localReference ["secretRef"])) ["iscsi"] ++
  optional (object (required text ["path", "server"] ++ optional flag ["readOnly"])) ["nfs"] ++
  optional (object (optional text ["group", "tenant", "user"] ++ optional flag ["readOnly"] ++
    required text ["registry", "volume"])) ["quobyte"] ++
  optional (object (optional text ["fsType", "keyring", "pool", "user"] ++
    required text ["image"] ++ required texts ["monitors"] ++ optional flag ["readOnly"] ++
    optional localReference ["secretRef"])) ["rbd"] ++
  optional (object (optional text ["fsType", "volumeName", "volumeNamespace"] ++
    optional flag ["readOnly"] ++ optional localReference ["secretRef"])) ["storageos"]

def cloudVolumes : List Field :=
  optional (object (optional text ["fsType"] ++ optional int32 ["partition"] ++
    optional flag ["readOnly"] ++ required text ["volumeID"])) ["awsElasticBlockStore"] ++
  optional (object (optional text ["cachingMode", "fsType", "kind"] ++
    required text ["diskName", "diskURI"] ++ optional flag ["readOnly"])) ["azureDisk"] ++
  optional (object (optional flag ["readOnly"] ++ required text ["secretName", "shareName"]))
    ["azureFile"] ++
  optional (object (optional text ["fsType"] ++ optional int32 ["partition"] ++
    required text ["pdName"] ++ optional flag ["readOnly"])) ["gcePersistentDisk"] ++
  optional (object (optional text ["fsType"] ++ required text ["pdID"]))
    ["photonPersistentDisk"] ++
  optional (object (optional text ["fsType"] ++ optional flag ["readOnly"] ++
    required text ["volumeID"])) ["portworxVolume"] ++
  optional (object (optional text ["fsType", "protectionDomain", "storageMode", "storagePool",
    "volumeName"] ++ required text ["gateway", "system"] ++
    optional flag ["readOnly", "sslEnabled"] ++ required localReference ["secretRef"]))
    ["scaleIO"] ++
  optional (object (optional text ["fsType", "storagePolicyID", "storagePolicyName"] ++
    required text ["volumePath"])) ["vsphereVolume"]

def clusterVolumes : List Field :=
  optional (object (optional int32 ["defaultMode"] ++ optional (list keyToPath) ["items"] ++
    required text ["name"] ++ optional flag ["optional"])) ["configMap"] ++
  optional (object (required text ["driver"] ++ optional text ["fsType"] ++
    optional localReference ["nodePublishSecretRef"] ++ optional flag ["readOnly"] ++
    optional (table text) ["volumeAttributes"])) ["csi"] ++
  optional (object (optional int32 ["defaultMode"] ++ optional (list downwardFile) ["items"]))
    ["downwardAPI"] ++
  optional (object (optional text ["medium", "sizeLimit"])) ["emptyDir"] ++
  optional (object (optional (object (optional metadata ["metadata"] ++
    required claimSpec ["spec"])) ["volumeClaimTemplate"])) ["ephemeral"] ++
  optional (object (optional text ["fsType"] ++ optional int32 ["lun"] ++
    optional flag ["readOnly"] ++ optional texts ["targetWWNs", "wwids"])) ["fc"] ++
  optional (object (required text ["driver"] ++ optional text ["fsType"] ++
    optional (table text) ["options"] ++ optional flag ["readOnly"] ++
    optional localReference ["secretRef"])) ["flexVolume"] ++
  optional (object (optional text ["datasetName", "datasetUUID"])) ["flocker"] ++
  optional (object (optional text ["directory", "revision"] ++ required text ["repository"]))
    ["gitRepo"] ++
  optional (object (required text ["path"] ++ optional text ["type"])) ["hostPath"] ++
  optional (object (optional text ["pullPolicy", "reference"])) ["image"] ++
  optional (object (required text ["claimName"] ++ optional flag ["readOnly"]))
    ["persistentVolumeClaim"] ++
  optional (object (optional int32 ["defaultMode"] ++ optional (list projection) ["sources"]))
    ["projected"] ++
  optional (object (optional int32 ["defaultMode"] ++ optional (list keyToPath) ["items"] ++
    optional flag ["optional"] ++ optional text ["secretName"])) ["secret"]

def volume : Schema := object <|
  required text ["name"] ++ clusterVolumes ++ networkVolumes ++ cloudVolumes

end PodPlacement.Schema
