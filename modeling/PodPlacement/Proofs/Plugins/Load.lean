import PodPlacement.Plugins.InTree
import PodPlacement.Proofs.Cluster.NodeInfo
import PodPlacement.Proofs.Double.Nearest
import PodPlacement.Proofs.Resource.Defaulted

/-!
The load that a node is judged by: what its pods count for with defaults, as a share of its memory.
It is no less than the share that they ask for as long as the defaults suffice for every pod.
-/

namespace PodPlacement

theorem Double.ofInt_of_nonneg {x : Int} (h : 0 ≤ x) : Float.ofInt x = Float.ofNat x.toNat := by
  cases x with
  | ofNat n => rfl
  | negSucc n => exact absurd h (by omega)

theorem Double.ofInt_ratio_le {x y z : Int} (hx : 0 ≤ x) (hxy : x ≤ y) (hz : 0 < z)
    (hz' : z < 2 ^ 64) : Float.ofInt x / Float.ofInt z ≤ Float.ofInt y / Float.ofInt z := by
  rw [ofInt_of_nonneg hx, ofInt_of_nonneg (hx.trans hxy), ofInt_of_nonneg hz.le]
  exact ratio_le_ratio (by omega) (by omega) (by omega)

namespace NodeInfo

variable {n : NodeInfo} {r : Native}

variable (n r) in
/-- 64 bits hold what each pod of the node asks for and counts for, and what they do together. -/
structure LoadInRange : Prop where
  pods : ∀ p ∈ n.pods, p.InRange r
  requested : Word.Fits (n.pods.map (·.request.get r)).sum
  counted : Word.Fits (n.pods.map (·.defaulted r)).sum

theorem get_nonZeroRequested :
    n.nonZeroRequested.get r = Word.sum (n.pods.map (·.nonZeroRequest.get r)) := by
  rw [nonZeroRequested, Amounts.get_foldl_add, List.map_map]
  rfl

namespace LoadInRange

theorem get_requested (h : n.LoadInRange r) :
    n.requested.get r = (n.pods.map (·.request.get r)).sum := by
  rw [NodeInfo.get_requested, Word.sum_of_fits h.requested]

theorem get_nonZeroRequested (h : n.LoadInRange r) (hr : r ≠ .ephemeral) :
    n.nonZeroRequested.get r = (n.pods.map (·.defaulted r)).sum := by
  have hcounted : n.pods.map (·.nonZeroRequest.get r) = n.pods.map (·.defaulted r) :=
    List.map_congr_left fun p hp ↦ Pod.get_nonZeroRequest hr (h.pods p hp)
  rw [NodeInfo.get_nonZeroRequested, hcounted, Word.sum_of_fits h.counted]

theorem requested_le (h : n.LoadInRange r) (hr : r ≠ .ephemeral)
    (hsuffice : ∀ p ∈ n.pods, p.DefaultsSuffice r) :
    n.requested.get r ≤ n.nonZeroRequested.get r := by
  rw [h.get_requested, h.get_nonZeroRequested hr]
  apply List.sum_le_sum
  intro p hp
  exact ((h.pods p hp).request_le_iff _).2 (hsuffice p hp)

theorem requested_nonneg (h : n.LoadInRange r) (hpods : ∀ p ∈ n.pods, p.Nonneg) :
    0 ≤ n.requested.get r := by
  rw [h.get_requested]
  apply List.sum_nonneg
  intro x hx
  obtain ⟨p, hp, rfl⟩ := List.mem_map.1 hx
  exact (hpods p hp).request_nonneg (h.pods p hp)

end LoadInRange

end NodeInfo

namespace Plugins.ResourcePriority

def share (n : NodeInfo) (memory : Int) : Float :=
  Float.ofInt memory / Float.ofInt n.capacity.memory

theorem share_le {n : NodeInfo} {x y : Int} (hx : 0 ≤ x) (h : x ≤ y)
    (hcapacity : 0 < n.capacity.memory) : share n x ≤ share n y := by
  have hfits : Word.Fits (n.capacity.get .memory) := Amounts.fits_get_ofList ..
  exact Double.ofInt_ratio_le hx h hcapacity (hfits.2.trans_lt (by decide))

/-- In sums that 64 bits hold, a pod counts for no less than it asks exactly if the defaults
suffice, which they always do for containers alone; then the pods of a node count for no less than
they ask, and its load for no less than the share of its memory that is asked for. -/
theorem load_of_defaults (p : Pod) (n : NodeInfo) :
    (∀ r, r ≠ .ephemeral → p.InRange r → p.nonZeroRequest.get r = p.defaulted r ∧
      (p.request.get r ≤ p.nonZeroRequest.get r ↔ p.DefaultsSuffice r)) ∧
    (∀ r : Native, p.initContainers = [] → p.onTop r.name = 0 → p.DefaultsSuffice r) ∧
    (∀ r, r ≠ .ephemeral → n.LoadInRange r → (∀ q ∈ n.pods, q.DefaultsSuffice r) →
      n.requested.get r ≤ n.nonZeroRequested.get r) ∧
    (n.LoadInRange .memory → (∀ q ∈ n.pods, q.Nonneg) →
      n.requested.memory ≤ n.nonZeroRequested.memory → 0 < n.capacity.memory →
      ∀ (env : Surroundings) (notes : CycleState),
        score env notes p n =
          .ok (max 0 (min (decay env.exp (share n n.nonZeroRequested.memory)) maxScore)) ∧
        share n n.requested.memory ≤ share n n.nonZeroRequested.memory) := by
  refine ⟨?_, ?_, ?_, ?_⟩
  · intro r hr hfits
    exact ⟨Pod.get_nonZeroRequest hr hfits, Pod.request_le_nonZeroRequest_iff hr hfits⟩
  · intro r hinit hontop
    exact p.defaultsSuffice_of_plain hinit hontop
  · intro r hr hfits hsuffice
    exact hfits.requested_le hr hsuffice
  · intro hfits hnonneg hle hcapacity env notes
    have hrequested : 0 ≤ n.requested.get .memory := hfits.requested_nonneg hnonneg
    refine ⟨?_, share_le hrequested hle hcapacity⟩
    simp only [score, loadScore, if_neg (Int.not_le.2 hcapacity), share]

namespace Prepared

/-! Pods whose init containers ask for more than the containers, on a node of 8 GiB. -/

def container (requests : List (String × String)) : Container where
  resources := some { requests := some (.ofList requests) }

def pod (containers initContainers : List Container) : Pod where
  spec := some { containers, initContainers := some initContainers }

def node (p : Pod) : NodeInfo where
  node :=
    { status := some { capacity := some (.ofList [("memory", "8589934592")]) } }
  pods := [p]

def light : Pod := pod [container [("cpu", "500m")]] [container [("memory", "104857600")]]

def heavy : Pod := pod [container [("cpu", "500m"), ("memory", "1073741824")]]
  [container [("cpu", "3000m"), ("memory", "4294967296")]]

end Prepared

open Prepared in
theorem load_of_defaults_light :
    light.Nonneg ∧ light.DefaultsSuffice .memory ∧ (node light).LoadInRange .memory ∧
      (node light).requested.get .memory ≤ (node light).nonZeroRequested.get .memory ∧
      share (node light) (node light).requested.memory ≤
        share (node light) (node light).nonZeroRequested.memory := by
  obtain ⟨hpod, -, hnode, hload⟩ := load_of_defaults light (node light)
  have hmemory : Native.memory ≠ .ephemeral := by decide
  have hlight : light.InRange .memory :=
    ⟨by decide +kernel, by decide +kernel, by decide +kernel, by decide +kernel⟩
  have hfits : (node light).LoadInRange .memory :=
    ⟨by simpa [node] using hlight, by decide +kernel, by decide +kernel⟩
  have hnonneg : ∀ p ∈ (node light).pods, p.Nonneg := by decide +kernel
  have hsuffices : light.DefaultsSuffice .memory :=
    (hpod .memory hmemory hlight).2.1 (by decide +kernel)
  have hsuffice : ∀ p ∈ (node light).pods, p.DefaultsSuffice .memory := by
    intro p hp
    rwa [List.mem_singleton.1 hp]
  have hcapacity : 0 < (node light).capacity.memory := by decide +kernel
  have hle := hnode .memory hmemory hfits hsuffice
  exact ⟨hnonneg light (List.mem_singleton_self _), hsuffices, hfits, hle,
    (hload hfits hnonneg hle hcapacity {} { snapshot := .empty }).2⟩

open Prepared in
/-- What the init container asks for does not count, though the pod does ask for it. -/
theorem init_container_not_counted : heavy.Nonneg ∧
    heavy.request.get .cpu = 3000 ∧ heavy.nonZeroRequest.get .cpu = 500 ∧
    heavy.request.get .memory = 4294967296 ∧ heavy.nonZeroRequest.get .memory = 1073741824 ∧
    (node heavy).nonZeroRequested.get .cpu < (node heavy).requested.get .cpu ∧
    (node heavy).nonZeroRequested.get .memory < (node heavy).requested.get .memory ∧
    share (node heavy) (node heavy).nonZeroRequested.memory <
      share (node heavy) (node heavy).requested.memory := by
  refine ⟨?_, ?_, ?_, ?_, ?_, ?_, ?_, ?_⟩ <;> decide +kernel

end Plugins.ResourcePriority

end PodPlacement
