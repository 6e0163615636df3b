import Mathlib.Logic.Relation
import PodPlacement.Plugins.Room
import PodPlacement.Proofs.Plugins.Scores

/-!
Ports of the host that pods claim. As long as each new pod passes the plugin for ports, no two pods
on a node ever claim ports that exclude each other, whatever each of them claims for itself.
-/

namespace PodPlacement

/-! ### Claims -/

def ContainerPort.address (asked : ContainerPort) : String :=
  if asked.hostIp.getD "" = "" then "0.0.0.0" else asked.hostIp.getD ""

structure ContainerPort.Claims (asked : ContainerPort) (a : HostPort) : Prop where
  port : asked.hostPort = some a.port
  positive : 0 < a.port
  protocol : asked.protocol.getD "TCP" = a.protocol
  address : asked.address = a.ip

def Pod.Claims (p : Pod) (a : HostPort) : Prop :=
  ∃ c ∈ p.containers, ∃ asked ∈ c.ports.getD [], asked.Claims a

/-- Only one of the two can be had: the same port under the same protocol, on addresses of which one
is the other or stands for all. -/
structure HostPort.Excludes (a b : HostPort) : Prop where
  port : a.port = b.port
  protocol : a.protocol = b.protocol
  address : a.ip = b.ip ∨ a.ip = "0.0.0.0" ∨ b.ip = "0.0.0.0"

def Pod.Clashes (p q : Pod) : Prop := ∃ a b, p.Claims a ∧ q.Claims b ∧ a.Excludes b

variable {a b : HostPort} {asked : ContainerPort} {p q : Pod}

theorem HostPort.Excludes.symm (h : a.Excludes b) : b.Excludes a :=
  ⟨h.port.symm, h.protocol.symm, h.address.elim (fun heq ↦ .inl heq.symm) fun hany ↦ .inr hany.symm⟩

theorem HostPort.conflictsWith_iff : a.conflictsWith b = true ↔ a.Excludes b := by
  simp only [conflictsWith, anyAddress, Bool.and_eq_true, Bool.or_eq_true, beq_iff_eq]
  constructor
  · rintro ⟨⟨hport, hprotocol⟩, haddress⟩
    exact ⟨hport, hprotocol, or_assoc.1 haddress⟩
  · intro h
    exact ⟨⟨h.port, h.protocol⟩, or_assoc.2 h.address⟩

theorem HostPort.conflictsWith_comm (a b : HostPort) : a.conflictsWith b = b.conflictsWith a := by
  rw [Bool.eq_iff_iff, conflictsWith_iff, conflictsWith_iff]
  exact ⟨Excludes.symm, Excludes.symm⟩

theorem Pod.Clashes.symm (h : p.Clashes q) : q.Clashes p := by
  obtain ⟨a, b, ha, hb, hab⟩ := h
  exact ⟨b, a, hb, ha, hab.symm⟩

theorem HostPort.address_eq (asked : ContainerPort) :
    (asked.hostIp.filter (!·.isEmpty)).getD anyAddress = asked.address := by
  rw [ContainerPort.address]
  cases asked.hostIp with
  | none => rfl
  | some ip => by_cases h : ip = "" <;> simp [h, Option.filter, anyAddress]

theorem HostPort.ofContainerPort_eq_some_iff : ofContainerPort asked = some a ↔ asked.Claims a := by
  simp only [ofContainerPort, address_eq, Option.map_eq_some_iff, Option.filter_eq_some_iff,
    decide_eq_true_eq]
  constructor
  · rintro ⟨port, ⟨hport, hpos⟩, rfl⟩
    exact ⟨hport, hpos, rfl, rfl⟩
  · intro h
    obtain ⟨protocol, ip, port⟩ := a
    exact ⟨port, ⟨h.port, h.positive⟩, by rw [h.protocol, h.address]⟩

theorem Pod.mem_hostPorts : a ∈ p.hostPorts ↔ p.Claims a := by
  simp only [hostPorts, List.mem_flatMap, List.mem_filterMap, HostPort.ofContainerPort_eq_some_iff,
    Claims]

namespace Plugins.NodePorts

variable {env : Surroundings} {notes prepared : CycleState} {status : Status} {node : Node}
  {n : NodeInfo} {pods pods' : List Pod}

theorem clash_hostPorts_iff : clash p.hostPorts q.hostPorts = true ↔ p.Clashes q := by
  simp only [clash, List.any_eq_true, Pod.mem_hostPorts, HostPort.conflictsWith_iff, Pod.Clashes]
  exact exists_congr fun a ↦ exists_and_left.symm

instance (p q : Pod) : Decidable (p.Clashes q) := decidable_of_iff _ clash_hostPorts_iff

theorem clash_usedPorts_iff :
    clash p.hostPorts n.usedPorts = true ↔ ∃ q ∈ n.pods, p.Clashes q := by
  simp only [← clash_hostPorts_iff, clash, NodeInfo.usedPorts, List.any_flatMap, List.any_eq_true]
  constructor
  · rintro ⟨a, ha, q, hq, hclash⟩
    exact ⟨q, hq, a, ha, hclash⟩
  · rintro ⟨q, hq, a, ha, hclash⟩
    exact ⟨a, ha, q, hq, hclash⟩

/-- The plugin lets a pod pass exactly if it clashes with none that is placed. -/
theorem isSuccess_filter_iff (env : Surroundings) (h : preFilter notes p = (status, prepared)) :
    (filter env prepared p n).isSuccess = true ↔ ∀ q ∈ n.pods, ¬p.Clashes q := by
  obtain ⟨rfl, rfl⟩ := Prod.mk.inj h
  have hfilter : filter env (notes.write note (.wantedPorts p.hostPorts)) p n =
      .check (!clash p.hostPorts n.usedPorts)
        (.unschedulable "node(s) didn't have free ports for the requested pod ports") := by
    rw [filter, read?_write, if_pos rfl]
  rw [hfilter, Status.check]
  cases hclash : clash p.hostPorts n.usedPorts with
  | false =>
    refine iff_of_true rfl fun q hq hpq ↦ ?_
    rw [clash_usedPorts_iff.2 ⟨q, hq, hpq⟩] at hclash
    cases hclash
  | true =>
    obtain ⟨q, hq, hpq⟩ := clash_usedPorts_iff.1 hclash
    exact iff_of_false nofun fun hnone ↦ hnone q hq hpq

/-! ### Pods that come and go -/

/-- A pod is placed on the node once the plugin lets it pass, or a pod is removed. -/
inductive Step (node : Node) : List Pod → List Pod → Prop
  | place {pods pods' : List Pod} {notes prepared : CycleState} {status : Status}
      (env : Surroundings) (p : Pod) :
      preFilter notes p = (status, prepared) → status.isSuccess = true →
      (filter env prepared p { node, pods }).isSuccess = true → pods'.Perm (p :: pods) →
      Step node pods pods'
  | remove {pods pods' : List Pod} (q : Pod) : pods.Perm (q :: pods') → Step node pods pods'

abbrev Reaches (node : Node) : List Pod → List Pod → Prop := Relation.ReflTransGen (Step node)

/-- No two different pods claim ports that exclude each other. -/
def Apart (pods : List Pod) : Prop := pods.Pairwise fun p q ↦ ¬p.Clashes q

theorem apart_perm_cons (h : pods'.Perm (p :: pods)) :
    Apart pods' ↔ (∀ q ∈ pods, ¬p.Clashes q) ∧ Apart pods := by
  rw [Apart, h.pairwise_iff (mt Pod.Clashes.symm), List.pairwise_cons, Apart]

theorem Step.apart (h : Step node pods pods') (happart : Apart pods) : Apart pods' := by
  cases h with
  | place env p hprepared _ hfilter hpods =>
    exact (apart_perm_cons hpods).2 ⟨(isSuccess_filter_iff env hprepared).1 hfilter, happart⟩
  | remove q hpods => exact ((apart_perm_cons hpods).1 happart).2

theorem Step.of_free (env : Surroundings) (notes : CycleState) (h : ∀ q ∈ pods, ¬p.Clashes q) :
    Step node pods (p :: pods) := by
  have hprepared : preFilter notes p = (.success, (preFilter notes p).2) := rfl
  exact .place env p hprepared rfl ((isSuccess_filter_iff env hprepared).2 h) (.refl _)

/-- Which of two claims comes first makes no difference, and if no two pods exclude each other at
first, then none ever do. -/
theorem ports_never_clash (node : Node) (pods : List Pod) :
    (∀ a b : HostPort, a.conflictsWith b = b.conflictsWith a) ∧
    (∀ (env : Surroundings) (notes : CycleState) (p : Pod),
      (preFilter notes p).1.isSuccess = true ∧
      ((filter env (preFilter notes p).2 p { node, pods }).isSuccess = true ↔
        ∀ q ∈ pods, ¬p.Clashes q)) ∧
    (pods.Pairwise (fun p q ↦ ¬p.Clashes q) → ∀ pods', Reaches node pods pods' →
      pods'.Pairwise fun p q ↦ ¬p.Clashes q) := by
  refine ⟨HostPort.conflictsWith_comm, fun env notes p ↦ ⟨rfl, ?_⟩, fun happart pods' h ↦ ?_⟩
  · exact isSuccess_filter_iff env rfl
  · induction h with
    | refl => exact happart
    | tail _ hstep ih => exact hstep.apart ih

namespace Addresses

/-! Pods that claim one port, two of them on an address of their own and one on all addresses. -/

def claiming (hostIp : Option String) : Pod where
  spec := some { containers := [{ ports := some [{ hostPort := some 8080, hostIp }] }] }

def first : Pod := claiming (some "10.0.0.1")

def second : Pod := claiming (some "10.0.0.2")

def everywhere : Pod := claiming none

def blank : CycleState := { snapshot := .empty }

end Addresses

open Addresses in
/-- The pod that wants the port on all addresses has to wait until both others are gone. -/
theorem ports_never_clash_addresses :
    Reaches {} [] [second, first] ∧ [second, first].Pairwise (fun p q ↦ ¬p.Clashes q) ∧
    (filter {} (preFilter blank everywhere).2 everywhere
      { node := {}, pods := [second, first] }).isSuccess = false ∧
    Reaches {} [second, first] [everywhere] ∧
    [everywhere].Pairwise fun p q ↦ ¬p.Clashes q := by
  have hplaced : Reaches {} [] [second, first] :=
    (Relation.ReflTransGen.single (Step.of_free {} blank (by decide +kernel))).tail
      (Step.of_free {} blank (by decide +kernel))
  have hreplaced : Reaches {} [second, first] [everywhere] :=
    ((Relation.ReflTransGen.single (Step.remove second (.refl _))).tail
      (Step.remove first (.refl _))).tail (Step.of_free {} blank (by decide +kernel))
  obtain ⟨-, -, hkept⟩ := ports_never_clash {} []
  obtain ⟨-, hpasses, -⟩ := ports_never_clash {} [second, first]
  refine ⟨hplaced, hkept .nil _ hplaced, ?_, hreplaced, hkept .nil _ (hplaced.trans hreplaced)⟩
  rw [← Bool.not_eq_true, (hpasses {} blank everywhere).2]
  decide +kernel

end Plugins.NodePorts

end PodPlacement
