import PodPlacement.Framework.Plugin

/-!
Scores by images that are already there, by the share of memory in use, and by how often a node was
chosen of late.
-/

namespace PodPlacement.Plugins

def wholePart (x : Float) : Int :=
  let size (y : Float) : Int := y.toUInt64.toNat
  Text.IntegerRange.signed64.clamp (if x < 0 then -size (-x) else size x)

namespace ImageLocality

def name : String := "ImageLocality"

def megabyte : Int := 1024 * 1024

def minSize : Int := 23 * megabyte

def maxContainerSize : Int := 1000 * megabyte

def imageWorth (s : Snapshot) (n : NodeInfo) (image : String) : Int :=
  let image := normalizeImage image
  match n.imageSize? image with
  | some size =>
    let spread := Float.ofNat (s.nodesWithImage image) / Float.ofNat (max s.nodes.length 1)
    wholePart (Float.ofInt size * spread)
  | none => 0

def scaleSize (containers : Nat) (size : Int) : Int :=
  let high := maxContainerSize * max containers 1
  maxScore * (max minSize (min size high) - minSize) / (high - minSize)

def score : Score := fun _ state p n ↦
  match p.spec with
  | none => .ok 0
  | some spec =>
    let images := spec.containers.filterMap (·.image)
    let worth := Word.sum (images.map (imageWorth state.snapshot n))
    .ok (scaleSize spec.containers.length worth)

def plugin : Plugin := { name, score := some score }

end ImageLocality

def decay (exp : Float → Float) (ratio : Float) : Int := wholePart (100.0 * exp (-5.0 * ratio))

namespace ResourcePriority

def name : String := "ResourcePriority"

def loadScore (exp : Float → Float) (used capacity : Int) : Int :=
  if capacity ≤ 0 then 0
  else max 0 (min (decay exp (Float.ofInt used / Float.ofInt capacity)) maxScore)

def score : Score := fun env _ _ n ↦
  .ok (loadScore env.exp n.nonZeroRequested.memory n.capacity.memory)

def plugin : Plugin := { name, score := some score }

end ResourcePriority

namespace RepeatPriority

def name : String := "RepeatPriority"

def score : Score := fun env _ _ n ↦
  let (count, highest) := env.usage.factor n.name
  .ok (decay env.exp (Float.ofNat count / Float.ofNat (max highest 1)))

def plugin : Plugin := { name, score := some score }

end RepeatPriority

end PodPlacement.Plugins
