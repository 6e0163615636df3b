import PodPlacement.Framework.CycleState
import PodPlacement.Framework.Status
import PodPlacement.Framework.Usage

/-!
Plugins: named collections of functions, one for each point of a scheduling attempt at which the
plugin has a say. What a plugin may look at beyond the attempt itself is its surroundings.
-/

namespace PodPlacement

/-- For a pod and a node the reasons why the pod's volumes cannot be had there, none if they can. -/
abbrev VolumeBinder := Pod → Node → Except ClusterError (List String)

def permissiveBinder : VolumeBinder := fun _ _ ↦ .ok []

structure Surroundings where
  binder : VolumeBinder := permissiveBinder
  usage : Usage := .fresh Usage.defaultThreshold
  /-- The exponential function on doubles, whose last bits machines do not agree on. -/
  exp : Float → Float := Float.exp

abbrev PreFilter := CycleState → Pod → Status × CycleState

abbrev Filter := Surroundings → CycleState → Pod → NodeInfo → Status

abbrev PreScore := CycleState → Pod → List NodeInfo → Status × CycleState

abbrev Score := Surroundings → CycleState → Pod → NodeInfo → Except Status Int

structure Plugin where
  name : String
  preFilter : Option PreFilter := none
  filter : Option Filter := none
  preScore : Option PreScore := none
  score : Option Score := none
deriving Inhabited

def maxScore : Int := 100

def minScore : Int := 0

def missingNote (key : String) : Status := .error ("reading " ++ key ++ " from cycle state")

end PodPlacement
