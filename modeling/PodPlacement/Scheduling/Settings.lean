import PodPlacement.Framework.Usage
import PodPlacement.Plugins.InTree

/-!
How the scheduler decides, evicts and retries, as far as this can be configured.
-/

namespace PodPlacement

structure RetryConfig where
  /-- All attempts, the first one included. -/
  steps : Nat := 5
  baseDelayMs : Nat := 10
  factor : Float := 2.0
  jitter : Float := 0.1
deriving Repr, Inhabited

structure PreemptionSettings where
  graceSeconds : Int := 30
  maxPollMs : Nat := 10000
deriving DecidableEq, Repr, Inhabited

structure SchedulerSettings where
  samplingPercentage : Nat := 10
  /-- Clusters with more nodes than this are sampled. -/
  largeClusterThreshold : Nat := 50
  usageResetThreshold : Nat := Usage.defaultThreshold
  seed : Option Nat := none
  disablePreemption : Bool := false
  preemption : PreemptionSettings := {}
  retry : RetryConfig := {}
  plugins : PluginSet := .standard
deriving Repr, Inhabited

end PodPlacement
