import PodPlacement.Document
import PodPlacement.Error
import PodPlacement.Json.Printer
import PodPlacement.Service.Body
import PodPlacement.Time.Duration

/-!
The messages on the queues: a request to schedule a workload, and a request that waits before it is
tried again. Both travel as compact JSON.
-/

namespace PodPlacement

open Document Text

namespace Duration

def carry? (seconds nanos : Nat) : Option Duration :=
  let seconds := seconds + nanos / nanosPerSecond
  if seconds < 0x10000000000000000 then some ⟨seconds, nanos % nanosPerSecond⟩ else none

def read? {δ : Type} [Document δ] (d : δ) : Option Duration := do
  let f ← Fields.readStrictly ["secs", "nanos"] d
  let seconds ← f.required "secs" (natural? .unsigned64)
  let nanos ← f.required "nanos" (natural? .unsigned32)
  carry? seconds nanos

def toJson (d : Duration) : Json := .obj [("secs", .int d.seconds), ("nanos", .int d.nanos)]

end Duration

structure ScheduleRequest where
  /-- The key of the workload as text. -/
  key : String
  /-- The wait in seconds before this attempt. -/
  lastBackoff : Nat := 0
  /-- From the creation of the workload to the sending of the request. -/
  processed : Duration := .zero
  /-- Why the attempt before this one failed. -/
  message : String := ""
deriving DecidableEq, Repr, Inhabited

structure RetryRequest where
  request : ScheduleRequest
  queue : String
deriving DecidableEq, Repr, Inhabited

namespace ScheduleRequest

def read? {δ : Type} [Document δ] (d : δ) : Option ScheduleRequest := do
  let f ← Fields.read ["key", "lastBackoffTime", "processedTime", "message"] d
  let key ← f.required "key" text?
  let lastBackoff ← f.optional "lastBackoffTime" 0 (natural? .unsigned64)
  let processed ← f.optional "processedTime" .zero Duration.read?
  let message ← f.optional "message" "" text?
  return { key, lastBackoff, processed, message }

def toJson (r : ScheduleRequest) : Json :=
  .obj [("key", .str r.key), ("lastBackoffTime", .int r.lastBackoff),
    ("processedTime", r.processed.toJson), ("message", .str r.message)]

def encode (r : ScheduleRequest) : Body := r.toJson.compact

end ScheduleRequest

namespace RetryRequest

def read? {δ : Type} [Document δ] (d : δ) : Option RetryRequest := do
  let f ← Fields.read ["request", "queue"] d
  let request ← f.required "request" ScheduleRequest.read?
  let queue ← f.required "queue" text?
  return { request, queue }

def toJson (r : RetryRequest) : Json :=
  .obj [("request", r.request.toJson), ("queue", .str r.queue)]

def encode (r : RetryRequest) : Body := r.toJson.compact

end RetryRequest

def decodeMessage {α : Type} (read : Json → Option α) (queue : String) (body : Body) :
    Except ServiceError α :=
  match body.json?.bind read with
  | some a => .ok a
  | none => .error (.malformedMessage queue "not a message of this kind")

end PodPlacement
