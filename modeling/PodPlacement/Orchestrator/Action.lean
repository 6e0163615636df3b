import PodPlacement.Orchestrator.Call
import PodPlacement.Scheduling.Basic
import PodPlacement.Time.Delay

/-!
What an activity does next. An activity is a state machine: it asks for one thing at a time and says
how it goes on from the answer, whatever the answer is.
-/

namespace PodPlacement

/-- A pod that shall go to `host` once `victim` has left it, and what the node's condition says
meanwhile. -/
structure Eviction where
  host : String
  preemptor : Pod
  victim : Pod
  preemptorKey : WorkloadKey
  victimKey : WorkloadKey
deriving Inhabited

inductive Action (σ : Type)
  | call (c : Call) (resume : c.Answer → σ)
  | sleep (d : Delay) (next : σ)
  | done

end PodPlacement
