import PodPlacement.Framework.PluginSet
import PodPlacement.Framework.Registry
import PodPlacement.Plugins.Affinity
import PodPlacement.Plugins.Preference
import PodPlacement.Plugins.Room
import PodPlacement.Plugins.Taints
import PodPlacement.Plugins.Verdicts

/-!
The plugins that come with the scheduler, and the ones among them that take part by default.
-/

namespace PodPlacement

namespace Plugins

def inTree : List Plugin :=
  [NodeStatus.plugin, TaintToleration.plugin, NodeAffinity.plugin, NodeResourcesFit.plugin,
    NodeName.plugin, NodePorts.plugin, NodeUnschedulable.plugin, InterPodAffinity.plugin,
    VolumeBinding.plugin, ImageLocality.plugin, ResourcePriority.plugin, RepeatPriority.plugin]

end Plugins

def Registry.inTree : Registry := .ofPlugins Plugins.inTree

def PluginSet.standard : PluginSet :=
  let choose (names : List String) : List PluginChoice := names.map fun name ↦ { name }
  open Plugins in
  { preFilter := choose [NodeResourcesFit.name, NodePorts.name, InterPodAffinity.name]
    filter := choose [NodeStatus.name, TaintToleration.name, NodeAffinity.name,
      NodeResourcesFit.name, NodeName.name, NodePorts.name, NodeUnschedulable.name,
      InterPodAffinity.name, VolumeBinding.name]
    preScore := choose [TaintToleration.name, InterPodAffinity.name]
    score := choose [TaintToleration.name, NodeAffinity.name, ImageLocality.name,
      ResourcePriority.name, RepeatPriority.name, InterPodAffinity.name] }

end PodPlacement
