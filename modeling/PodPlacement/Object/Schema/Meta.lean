import PodPlacement.Object.Schema

/-!
Shapes that all cluster objects share: metadata, references and selectors.
-/

namespace PodPlacement.Schema

def texts : Schema := list text

def quantities : Schema := table text

def managedFields : Schema := object <|
  optional text ["apiVersion", "fieldsType", "manager", "operation", "subresource"] ++
  optional anything ["fieldsV1"] ++
  optional timestamp ["time"]

def ownerReference : Schema := object <|
  required text ["apiVersion", "kind", "name", "uid"] ++
  optional flag ["blockOwnerDeletion", "controller"]

def metadata : Schema := object <|
  optional (table text) ["annotations", "labels"] ++
  optional timestamp ["creationTimestamp", "deletionTimestamp"] ++
  optional int64 ["deletionGracePeriodSeconds", "generation"] ++
  optional texts ["finalizers"] ++
  optional text ["generateName", "name", "namespace", "resourceVersion", "selfLink", "uid"] ++
  optional (list managedFields) ["managedFields"] ++
  optional (list ownerReference) ["ownerReferences"]

def listMetadata : Schema := object <|
  optional text ["continue", "resourceVersion", "selfLink"] ++
  optional int64 ["remainingItemCount"]

def localReference : Schema := object <| required text ["name"]

def secretReference : Schema := object <| optional text ["name", "namespace"]

def objectReference : Schema := object <|
  optional text ["apiVersion", "fieldPath", "kind", "name", "namespace", "resourceVersion", "uid"]

def selectorRequirement : Schema := object <|
  required text ["key", "operator"] ++ optional texts ["values"]

def labelSelector : Schema := object <|
  optional (list selectorRequirement) ["matchExpressions"] ++
  optional (table text) ["matchLabels"]

def resourceNeeds : Schema := object <| optional quantities ["limits", "requests"]

def resourceClaims : Schema := object <|
  optional (list (object (required text ["name"] ++ optional text ["request"]))) ["claims"] ++
  optional quantities ["limits", "requests"]

def namesKind (kind : String) (j : Json) : Bool :=
  match j with
  | .obj members =>
    (occurrences "apiVersion" members).all (fun v ↦ v.text? == some "v1") &&
      (occurrences "kind" members).all (fun v ↦ v.text? == some kind)
  | _ => false

end PodPlacement.Schema
