/-!
Which plugins take part at which point of an attempt, in which order and, for scores, with which
weight.
-/

namespace PodPlacement

structure PluginChoice where
  name : String
  weight : Int := 1
deriving DecidableEq, Repr, Inhabited

structure PluginSet where
  preFilter : List PluginChoice := []
  filter : List PluginChoice := []
  preScore : List PluginChoice := []
  score : List PluginChoice := []
deriving DecidableEq, Repr, Inhabited

def PluginSet.names (s : PluginSet) : List String :=
  (s.preFilter ++ s.filter ++ s.preScore ++ s.score).map (·.name)

end PodPlacement
