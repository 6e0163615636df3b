import PodPlacement.Service.Message

/-!
The relay holds each retry for its wait and then sends the request back to the queue it names.
-/

namespace PodPlacement

structure Hold where
  request : ScheduleRequest
  queue : String
deriving DecidableEq, Repr, Inhabited

namespace Hold

def waitMs (h : Hold) : Nat := h.request.lastBackoff * 1000

def body (h : Hold) : Body := h.request.encode

def ofBody? (queue : String) (body : Body) : Option Hold :=
  match decodeMessage RetryRequest.read? queue body with
  | .ok retry => some ⟨retry.request, retry.queue⟩
  | .error _ => none

end Hold

end PodPlacement
