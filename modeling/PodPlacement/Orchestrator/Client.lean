import PodPlacement.Json.Parser
import PodPlacement.Orchestrator.Call
import PodPlacement.Orchestrator.Http
import PodPlacement.WorkloadKey

/-!
An orchestrator behind HTTP: the request that a call becomes, and what its response means. A
response that is missing stands for a connection that failed.
-/

namespace PodPlacement

structure Client where
  baseUrl : String
deriving DecidableEq, Repr

structure Exchange where
  request : HttpRequest
  key : String

namespace Client

def ofAddress (address : String) : Client where
  baseUrl := String.ofList ((address.toList.reverse.dropWhile (· = '/')).reverse)

def podUrl (c : Client) (space name : String) : String :=
  c.baseUrl ++ "/api/v1/namespaces/" ++ space ++ "/pods/" ++ name

def nodeUrl (c : Client) (name : String) : String := c.baseUrl ++ "/api/v1/nodes/" ++ name

/-! ### Requests -/

def binding (p : Pod) (key : WorkloadKey) (node : String) : Json :=
  let metadata : Metadata :=
    { name := some key.name, space := some key.space, uid := p.metadata.uid,
      annotations := p.metadata.annotations }
  .obj [("apiVersion", .str "v1"), ("kind", .str "Binding"), ("metadata", metadata.toJson),
    ("target", .obj [("kind", .str "Node"), ("name", .str node)])]

def deletion (o : DeleteOptions) : Json :=
  .obj [("gracePeriodSeconds", .int o.graceSeconds), ("propagationPolicy", .str o.policy.text)]

def exchange (c : Client) : Call → Except ClusterError Exchange
  | .getWorkload space name =>
    .ok ⟨{ method := .get, url := c.podUrl space name }, space ++ "/" ++ name⟩
  | .updateWorkloadStatus p => do
    let key ← WorkloadKey.ofPod p
    let url := c.podUrl key.space key.name ++ "/status"
    return ⟨{ method := .put, url, body := some p.toJson }, key.text⟩
  | .bind p node => do
    let key ← WorkloadKey.ofPod p
    let url := c.podUrl key.space key.name ++ "/binding"
    return ⟨{ method := .post, url, body := some (binding p key node) }, key.text⟩
  | .deleteWorkload space name options =>
    .ok ⟨{ method := .delete, url := c.podUrl space name, body := some (deletion options) },
      space ++ "/" ++ name⟩
  | .getNode name => .ok ⟨{ method := .get, url := c.nodeUrl name }, name⟩
  | .updateNodeStatus n =>
    .ok ⟨{ method := .put, url := c.nodeUrl n.name ++ "/status", body := some n.toJson }, n.name⟩
  | .createEvent e =>
    let space := e.metadata.space.getD "default"
    .ok ⟨{ method := .post, url := c.baseUrl ++ "/api/v1/namespaces/" ++ space ++ "/events",
           body := some e.toJson }, "event"⟩

def listNodes (c : Client) : Exchange :=
  ⟨{ method := .get, url := c.baseUrl ++ "/api/v1/nodes" }, "nodes"⟩

def listPods (c : Client) : Exchange :=
  ⟨{ method := .get, url := c.baseUrl ++ "/api/v1/pods" }, "pods"⟩

/-! ### Responses -/

def statusError (key : String) (r : HttpResponse) : ClusterError :=
  if r.status = 404 then .notFound key
  else if r.status = 409 then .conflict key r.body
  else
    .transport ("request for " ++ key ++ " failed with status " ++ r.statusText ++ ": " ++ r.body)

def accept (key : String) : Option HttpResponse → Except ClusterError String
  | none => .error (.transport ("HTTP request for " ++ key ++ " failed"))
  | some r => if r.isSuccess then .ok r.body else .error (statusError key r)

def fetch {α : Type} (read : Json → Option α) (key : String) (r : Option HttpResponse) :
    Except ClusterError α := do
  let body ← accept key r
  match (Json.parse? body).bind read with
  | some a => return a
  | none => throw (.serialization ("Failed to parse response for " ++ key))

def interpret (key : String) (r : Option HttpResponse) : (c : Call) → c.Answer
  | .getWorkload .. => fetch Pod.ofJson? key r
  | .updateWorkloadStatus .. => fetch Pod.ofJson? key r
  | .getNode .. => fetch Node.ofJson? key r
  | .updateNodeStatus .. => fetch Node.ofJson? key r
  | .bind .. => (accept key r).map fun _ ↦ ()
  | .deleteWorkload .. => (accept key r).map fun _ ↦ ()
  | .createEvent .. => (accept key r).map fun _ ↦ ()

def readList {α : Type} (kind : String) (read : Json → Option α) (j : Json) : Option (List α) := do
  if !Schema.namesKind kind j then none
  if !(j.member "metadata").isNull then
    let _ ← Schema.listMetadata.normalize (j.member "metadata")
  match j.member "items" with
  | .null => return []
  | items => items.list? read

def interpretNodes (r : Option HttpResponse) : Except ClusterError (List Node) :=
  fetch (readList "NodeList" Node.ofJson?) "nodes" r

def interpretPods (r : Option HttpResponse) : Except ClusterError (List Pod) :=
  fetch (readList "PodList" Pod.ofJson?) "pods" r

end Client

end PodPlacement
