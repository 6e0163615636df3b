import PodPlacement.Object.Pod
import PodPlacement.Resource.Amounts

/-!
What a pod asks of a node.
-/

namespace PodPlacement.Pod

/-- Containers run together, so their requests add up; init containers run alone before them, so
each only raises the total to its own; the overhead comes on top. -/
def request (p : Pod) : Amounts :=
  let running := (p.containers.filterMap (·.requests?)).foldl Amounts.addList .zero
  let starting := (p.initContainers.filterMap (·.requests?)).foldl Amounts.raiseTo running
  starting.addList p.overhead

def defaultCpu : Int := 100

def defaultMemory : Int := 200 * 1024 * 1024

def orDefault (fallback n : Int) : Int := if n = 0 then fallback else n

/-- CPU and memory of the containers, a default in place of a request that is absent or zero. -/
def nonZeroRequest (p : Pod) : Amounts :=
  p.containers.foldl (fun q c ↦
    let own := c.requests?.elim Amounts.zero Amounts.ofList
    { q with
      cpu := Word.add q.cpu (orDefault defaultCpu own.cpu)
      memory := Word.add q.memory (orDefault defaultMemory own.memory) }) .zero

end PodPlacement.Pod
