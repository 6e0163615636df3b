import PodPlacement.Object.Pod

/-!
Ports that pods claim on the address of their node.
-/

namespace PodPlacement

structure HostPort where
  protocol : String
  ip : String
  port : Int
deriving DecidableEq, Repr, Inhabited

namespace HostPort

def anyAddress : String := "0.0.0.0"

/-- Two claims that cannot hold on one node: same port and protocol, and addresses that overlap. -/
def conflictsWith (a b : HostPort) : Bool :=
  a.port == b.port && a.protocol == b.protocol &&
    (a.ip == b.ip || a.ip == anyAddress || b.ip == anyAddress)

def ofContainerPort (p : ContainerPort) : Option HostPort :=
  (p.hostPort.filter (0 < ·)).map fun port ↦
    { protocol := p.protocol.getD "TCP"
      ip := (p.hostIp.filter (!·.isEmpty)).getD anyAddress
      port }

end HostPort

def Pod.hostPorts (p : Pod) : List HostPort :=
  p.containers.flatMap fun c ↦ (c.ports.getD []).filterMap HostPort.ofContainerPort

end PodPlacement
