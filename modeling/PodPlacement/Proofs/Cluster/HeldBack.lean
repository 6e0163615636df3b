import PodPlacement.Proofs.Cluster.Room

/-!
What reservations do to the room on a node. Their reasons are free text, and amounts below zero can
be read from it as well: such a reservation gives room instead of holding it back.
-/

namespace PodPlacement

def Amounts.only (r : Native) (x : Int) : Amounts :=
  match r with
  | .cpu => { cpu := x }
  | .memory => { memory := x }
  | .ephemeral => { ephemeral := x }

namespace Amounts

variable (r : Native) (x : Int)

theorem get_only_self : (only r x).get r = x := by cases r <;> rfl

theorem get_only_of_ne {r r' : Native} (h : r' ≠ r) (x : Int) : (only r x).get r' = 0 := by
  cases r <;> cases r' <;> first | rfl | exact absurd rfl h

theorem extended_only : (only r x).extended = ∅ := by cases r <;> rfl

end Amounts

namespace NodeInfo

/-- A reservation below zero gives room, unless it gives so much that the sum wraps around. -/
theorem free_le_headroom_iff (n : NodeInfo) (r : Native) : n.free.get r ≤ n.headroom.get r ↔
    0 ≤ n.reserved.get r ∨ ¬Word.Fits (n.headroom.get r - n.reserved.get r) := by
  have hnonneg := n.get_headroom_nonneg r
  have hheadroom : Word.Fits (n.headroom.get r) := Amounts.fits_get_sub ..
  have hreserved := n.fits_get_reserved r
  rw [Word.fits_iff] at hheadroom hreserved
  rw [free, Amounts.get_sub]
  by_cases h : Word.Fits (n.headroom.get r - n.reserved.get r)
  · rw [Word.sub_of_fits h, or_iff_left (not_not.2 h)]
    omega
  · refine iff_of_true ?_ (.inr h)
    rw [Word.fits_iff] at h
    have hwrapped : Word.sub (n.headroom.get r) (n.reserved.get r) < 0 :=
      Word.sub_neg_of_lt (by omega) (by omega)
    omega

variable {n m : NodeInfo} {c : NodeCondition} {q : Amounts}

/-- What is let in where less is free is let in where more is free. -/
theorem Reported.let_in (h : n.Reported c m) (hfree : ∀ r, m.free.get r ≤ n.free.get r)
    (hm : insufficientResources q m = []) : insufficientResources q n = [] := by
  rw [insufficientResources_eq_nil_iff] at hm ⊢
  rw [h.allocatable_eq, h.pods] at hm
  refine hm.imp_right (Or.imp_right fun ⟨hnative, hextra⟩ ↦ ⟨fun r ↦ ?_, fun e he ↦ ?_⟩)
  · exact (hnative r).trans (hfree r)
  · have hroom := hextra e he
    rwa [extra_free_eq_headroom, h.headroom_eq, ← extra_free_eq_headroom] at hroom

theorem Reported.get_reserved (h : n.Reported c m) (hc : c.type = Node.preemptionType)
    (r : Native) :
    m.reserved.get r = Word.add (n.reserved.get r) (heldBack r (c.reason.getD "")) := by
  rw [NodeInfo.get_reserved, NodeInfo.get_reserved, Word.add_comm, heldBack,
    Word.sum_perm ((h.reservations_perm hc).map _)]
  cases Amounts.ofReservation (c.reason.getD "") with
  | ok _ => exact Word.sum_cons ..
  | error _ => exact (Word.zero_add (Word.fits_sum _)).symm

/-- A condition frees something only if what it holds back is below zero and not all is taken. -/
theorem Reported.get_free_le_iff (h : n.Reported c m) (hc : c.type = Node.preemptionType)
    {r : Native} (hleft : Word.Fits (n.headroom.get r - n.reserved.get r))
    (hreserved : Word.Fits (n.reserved.get r + heldBack r (c.reason.getD "")))
    (hleft' : Word.Fits
      (n.headroom.get r - (n.reserved.get r + heldBack r (c.reason.getD "")))) :
    m.free.get r ≤ n.free.get r ↔ 0 ≤ heldBack r (c.reason.getD "") ∨
      n.headroom.get r ≤ n.reserved.get r + heldBack r (c.reason.getD "") := by
  rw [free, free, Amounts.get_sub, Amounts.get_sub, h.headroom_eq, h.get_reserved hc,
    Word.add_of_fits hreserved, Word.sub_of_fits hleft, Word.sub_of_fits hleft']
  omega

/-- What is free with the condition but not without it is let in with it only. -/
theorem Reported.only_lets_in (h : n.Reported c m) {r : Native}
    (hplace : n.allocatable.pods ≤ 0 ∨ (n.pods.length : Int) + 1 ≤ n.allocatable.pods)
    (hmore : n.free.get r < m.free.get r) :
    insufficientResources (.only r (m.free.get r)) n ≠ [] ∧
      insufficientResources (.only r (m.free.get r)) m = [] := by
  have hnonneg := n.get_free_nonneg r
  constructor
  · intro hn
    have hfits := fits_of_no_reasons r hn
    rw [Amounts.get_only_self] at hfits
    omega
  · refine insufficientResources_eq_nil_iff.2 ⟨?_, .inr ⟨fun r' ↦ ?_, ?_⟩⟩
    · rwa [h.allocatable_eq, h.pods]
    · by_cases hr : r' = r
      · rw [hr, Amounts.get_only_self]
      · rw [Amounts.get_only_of_ne hr]
        exact m.get_free_nonneg r'
    · rw [Amounts.extended_only]
      intro e he
      cases he

/-- Reservations leave no more than the headroom exactly where they come to no less than zero, or
to so little that 64 bits do not hold what they leave. One more of them never lets in what was
refused exactly if the node is full anyway or it frees nothing. Where the sums fit, it frees nothing
of a resource exactly if its amount is not below zero or leaves none free. -/
theorem holds_back_iff (n : NodeInfo) :
    (∀ r, n.free.get r ≤ n.headroom.get r ↔
      0 ≤ n.reserved.get r ∨ ¬Word.Fits (n.headroom.get r - n.reserved.get r)) ∧
    ∀ c m, n.Reported c m → c.type = Node.preemptionType →
      ((∀ q, insufficientResources q n ≠ [] → insufficientResources q m ≠ []) ↔
        (0 < n.allocatable.pods ∧ n.allocatable.pods ≤ n.pods.length) ∨
        ∀ r, m.free.get r ≤ n.free.get r) ∧
      ∀ r, Word.Fits (n.headroom.get r - n.reserved.get r) →
        Word.Fits (n.reserved.get r + heldBack r (c.reason.getD "")) →
        Word.Fits (n.headroom.get r - (n.reserved.get r + heldBack r (c.reason.getD ""))) →
        (m.free.get r ≤ n.free.get r ↔ 0 ≤ heldBack r (c.reason.getD "") ∨
          n.headroom.get r ≤ n.reserved.get r + heldBack r (c.reason.getD "")) := by
  refine ⟨n.free_le_headroom_iff, fun c m h hc ↦ ⟨?_, fun r ↦ h.get_free_le_iff hc⟩⟩
  constructor
  · intro hkept
    by_contra hless
    obtain ⟨hplace, hmore⟩ := not_or.1 hless
    obtain ⟨r, hr⟩ := not_forall.1 hmore
    obtain ⟨hrefused, hlet⟩ := h.only_lets_in (by omega) (Int.not_le.1 hr)
    exact hkept _ hrefused hlet
  · rintro (hfull | hfree) q
    · intro _ hm
      obtain ⟨hplace, _⟩ := insufficientResources_eq_nil_iff.1 hm
      rw [h.allocatable_eq, h.pods] at hplace
      omega
    · exact mt (h.let_in hfree)

namespace Generous

/-! A node of one core, and a reservation of half a core less than nothing. -/

def core (conditions : List NodeCondition) : NodeInfo where
  node :=
    { metadata := { name := some "n1" }
      status := some {
        allocatable := some (.ofList [("cpu", "1000m")])
        conditions := some conditions } }
  pods := []

def wanted : Amounts := .ofList (.ofList [("cpu", "1200m")])

end Generous

open Generous in
/-- With the reservation there is half a core more than the node has, and a request is let in that
the node without it refuses. -/
theorem negative_reservation_gives :
    let c := NodeCondition.holding "-500,0,0"
    let n := core []
    let m := core [c]
    n.Reported c m ∧ c.type = Node.preemptionType ∧
      m.headroom.get .cpu = 1000 ∧ m.free.get .cpu = 1500 ∧
      insufficientResources wanted n = ["Insufficient cpu"] ∧
      insufficientResources wanted m = [] := by
  intro c n m
  exact ⟨⟨rfl, rfl, .refl _⟩, rfl, by decide +kernel, by decide +kernel, by decide +kernel,
    by decide +kernel⟩

end NodeInfo

end PodPlacement
