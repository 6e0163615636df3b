import PodPlacement.Proofs.Cluster.NodeInfo
import PodPlacement.Proofs.Resource.Request
import PodPlacement.Proofs.Scheduling.Decision

/-!
One node over time, with pods that come and go and any number of preemptions under way. Its pods
never ask for more of a native resource than the node has, because what each preemption may still
add is held back for it all along.
-/

namespace PodPlacement

/-- How far a preemption has come: its victim is there, or is gone, or it has ended because the pod
was bound or the attempt given up. -/
inductive Progress
  | waiting
  | cleared
  | ended
deriving DecidableEq, Repr

/-- A preemption whose condition stands on the node; `key` is the key of the victim. -/
structure Preemption where
  preemptor : Pod
  victim : Pod
  key : WorkloadKey
  progress : Progress

structure Occupancy where
  info : NodeInfo
  underWay : List Preemption

namespace Preemption

def claim (h : Preemption) : String × Option String :=
  (h.preemptor.request.toReservation, some h.key.text)

def losing (q : Pod) (h : Preemption) : Preemption :=
  if h.progress = .waiting ∧ (WorkloadKey.ofPod q).toOption = some h.key then
    { h with progress := .cleared }
  else h

/-- What the node may still have to give to the preemption beyond what the victim frees. -/
def gain (r : Native) (h : Preemption) : Int :=
  match h.progress with
  | .waiting => max (h.preemptor.request.get r - h.victim.request.get r) 0
  | .cleared => h.preemptor.request.get r
  | .ended => 0

end Preemption

/-- One step of placing pods and of preempting them. Each decision is taken on the node and the pods
as they are, and only while 64 bits hold what is held back there; where an order of pods or
preemptions does not matter, any order will do. -/
inductive Occupancy.Step : Occupancy → Occupancy → Prop
  | place {s : Occupancy} {pods : List Pod} (p : Pod) : s.info.HeldInRange → p.request.Nonneg →
      WorkloadKey.ofPod p ∉ s.info.pods.map WorkloadKey.ofPod →
      insufficientResources p.request s.info = [] → pods.Perm (p :: s.info.pods) →
      Step s ⟨{ s.info with pods }, s.underWay⟩
  | start {s : Occupancy} {node : Node} (p v : Pod) (key : WorkloadKey) (now : Timestamp) :
      s.info.HeldInRange → p.request.Nonneg → s.info.selectVictim p = some v →
      WorkloadKey.ofPod v = .ok key → v.request.isZero = false →
      s.info.node.reserve? key.text p.request.toReservation now = some node →
      Step s ⟨{ s.info with node }, ⟨p, v, key, .waiting⟩ :: s.underWay⟩
  | remove {s : Occupancy} {pods : List Pod} (q : Pod) : s.info.pods.Perm (q :: pods) →
      Step s ⟨{ s.info with pods }, s.underWay.map (·.losing q)⟩
  | bind {s : Occupancy} {pods : List Pod} {others : List Preemption} (h : Preemption) (p : Pod) :
      s.underWay.Perm (h :: others) → h.progress = .cleared →
      p.request = h.preemptor.request →
      WorkloadKey.ofPod p ∉ s.info.pods.map WorkloadKey.ofPod → pods.Perm (p :: s.info.pods) →
      Step s ⟨{ s.info with pods }, { h with progress := .ended } :: others⟩
  | abandon {s : Occupancy} {others : List Preemption} (h : Preemption) :
      s.underWay.Perm (h :: others) → Step s ⟨s.info, { h with progress := .ended } :: others⟩
  | release {s : Occupancy} {node : Node} {others : List Preemption} (h : Preemption) :
      s.underWay.Perm (h :: others) → h.progress = .ended →
      s.info.node.release? h.key.text = some node → Step s ⟨{ s.info with node }, others⟩

namespace Preemption

structure Sound (h : Preemption) : Prop where
  preemptor : h.preemptor.request.Nonneg
  victim : h.victim.request.Nonneg

variable {h : Preemption}

theorem heldBack_claim (h : Preemption) (r : Native) :
    heldBack r h.claim.1 = h.preemptor.request.get r := by
  rw [claim, heldBack, Amounts.ofReservation_toReservation h.preemptor.fits_get_request]
  cases r <;> rfl

theorem Sound.gain_nonneg (hs : h.Sound) (r : Native) : 0 ≤ h.gain r := by
  unfold gain
  cases h.progress with
  | waiting => exact Int.le_max_right _ _
  | cleared => exact hs.preemptor r
  | ended => exact Int.le_refl 0

/-- No preemption can gain more than is held back for it. -/
theorem Sound.gain_le (hs : h.Sound) (r : Native) : h.gain r ≤ heldBack r h.claim.1 := by
  have hp := hs.preemptor r
  have hv := hs.victim r
  rw [h.heldBack_claim]
  unfold gain
  cases h.progress with
  | waiting =>
    dsimp only
    omega
  | cleared => exact Int.le_refl _
  | ended => exact hp

theorem Sound.ended (hs : h.Sound) : Sound { h with progress := .ended } :=
  ⟨hs.preemptor, hs.victim⟩

/-! ### The removal of a pod -/

variable {q : Pod}

theorem losing_of_key_ne (hne : (WorkloadKey.ofPod q).toOption ≠ some h.key) :
    h.losing q = h := if_neg fun hlost ↦ hne hlost.2

theorem losing_key : (h.losing q).key = h.key := by
  unfold losing
  split <;> rfl

theorem losing_claim : (h.losing q).claim = h.claim := by
  unfold losing
  split <;> rfl

theorem Sound.losing (hs : h.Sound) : (h.losing q).Sound := by
  unfold Preemption.losing
  split
  · exact ⟨hs.preemptor, hs.victim⟩
  · exact hs

theorem losing_waiting (hwaiting : (h.losing q).progress = .waiting) :
    h.losing q = h ∧ (WorkloadKey.ofPod q).toOption ≠ some h.key := by
  unfold losing at hwaiting ⊢
  split at hwaiting
  · cases hwaiting
  · next hkept =>
    rw [if_neg hkept]
    exact ⟨rfl, fun hkey ↦ hkept ⟨hwaiting, hkey⟩⟩

theorem ofPod_of_toOption {key : WorkloadKey} (hkey : (WorkloadKey.ofPod q).toOption = some key) :
    WorkloadKey.ofPod q = .ok key := by
  cases hpod : WorkloadKey.ofPod q with
  | error _ =>
    rw [hpod] at hkey
    cases hkey
  | ok _ =>
    rw [hpod] at hkey
    cases hkey
    rfl

/-- The preemption whose victim leaves gains no more by it than the victim asked for. -/
theorem Sound.gain_losing_le (hs : h.Sound) (hq : q.request.Nonneg) (r : Native)
    (hvictim : h.progress = .waiting → WorkloadKey.ofPod q = .ok h.key → h.victim = q) :
    (h.losing q).gain r ≤ h.gain r + q.request.get r := by
  have hp := hs.preemptor r
  have hqr := hq r
  unfold Preemption.losing
  split
  · next hlost =>
    have hgone := hvictim hlost.1 (ofPod_of_toOption hlost.2)
    have hgain : h.gain r = max (h.preemptor.request.get r - q.request.get r) 0 := by
      rw [gain, hlost.1, hgone]
    rw [hgain]
    change h.preemptor.request.get r ≤ _
    omega
  · omega

end Preemption

namespace Occupancy

/-- What holds of a node and the preemptions on it at any time: the conditions of these stand on the
node beside others, and what they may still gain fits beside what the pods ask for. -/
structure Sound (s : Occupancy) : Prop where
  keys : (s.info.pods.map WorkloadKey.ofPod).Nodup
  requests : ∀ p ∈ s.info.pods, p.request.Nonneg
  preemptions : ∀ h ∈ s.underWay, h.Sound
  victims : ∀ h ∈ s.underWay, h.progress = .waiting →
    h.victim ∈ s.info.pods ∧ WorkloadKey.ofPod h.victim = .ok h.key
  texts : (s.underWay.map (·.key.text)).Nodup
  claims : ∃ others, s.info.node.claims.Perm (s.underWay.map (·.claim) ++ others) ∧
    ∀ c ∈ others, (∀ r, 0 ≤ heldBack r c.1) ∧ ∀ h ∈ s.underWay, c.2 ≠ some h.key.text
  room : ∀ r, (s.info.pods.map (·.request.get r)).sum + (s.underWay.map (·.gain r)).sum ≤
    s.info.allocatable.get r

variable {s : Occupancy}

theorem Sound.requests_nonneg (hs : s.Sound) (r : Native) :
    0 ≤ (s.info.pods.map (·.request.get r)).sum :=
  List.sum_nonneg (List.forall_mem_map.2 fun p hp ↦ hs.requests p hp r)

theorem Sound.gains_nonneg (hs : s.Sound) (r : Native) : 0 ≤ (s.underWay.map (·.gain r)).sum :=
  List.sum_nonneg (List.forall_mem_map.2 fun h hh ↦ (hs.preemptions h hh).gain_nonneg r)

theorem Sound.requests_le (hs : s.Sound) (r : Native) :
    (s.info.pods.map (·.request.get r)).sum ≤ s.info.allocatable.get r := by
  have hroom := hs.room r
  have hnonneg := hs.gains_nonneg r
  omega

theorem Sound.get_requested (hs : s.Sound) (r : Native) :
    s.info.requested.get r = (s.info.pods.map (·.request.get r)).sum := by
  have hfits := (s.info.fits_get_allocatable r).of_le (hs.requests_nonneg r) (hs.requests_le r)
  rw [NodeInfo.get_requested, Word.sum_of_fits hfits]

theorem Sound.gains_le_reserved (hs : s.Sound) (hheld : s.info.HeldInRange) (r : Native) :
    (s.underWay.map (·.gain r)).sum ≤ s.info.reserved.get r := by
  obtain ⟨others, hperm, hothers⟩ := hs.claims
  have hclaims : (s.underWay.map (·.gain r)).sum ≤
      (s.underWay.map fun h ↦ heldBack r h.claim.1).sum :=
    List.sum_le_sum fun h hh ↦ (hs.preemptions h hh).gain_le r
  have hrest : 0 ≤ (others.map fun c ↦ heldBack r c.1).sum :=
    List.sum_nonneg (List.forall_mem_map.2 fun c hc ↦ (hothers c hc).1 r)
  have hsplit : s.info.reserved.get r = (s.underWay.map fun h ↦ heldBack r h.claim.1).sum +
      (others.map fun c ↦ heldBack r c.1).sum := by
    rw [hheld.get_reserved, NodeInfo.sum_reservations, (hperm.map _).sum_eq, List.map_append,
      List.sum_append, List.map_map]
    rfl
  omega

/-- What is free is left of what the pods ask for and the preemptions may gain. -/
theorem Sound.free_le (hs : s.Sound) (hheld : s.info.HeldInRange) (r : Native) :
    s.info.free.get r ≤ s.info.allocatable.get r - (s.info.pods.map (·.request.get r)).sum -
      (s.underWay.map (·.gain r)).sum := by
  have hroom := hs.room r
  have hrequests := hs.requests_nonneg r
  have hnonneg := hs.gains_nonneg r
  have hgains := hs.gains_le_reserved hheld r
  have hrequested := hs.get_requested r
  rw [NodeInfo.get_free (by omega) (by omega) (by omega)]
  omega

/-- What is free on the node can be given away on top of what the preemptions may gain. -/
theorem Sound.room_for (hs : s.Sound) (hheld : s.info.HeldInRange) {r : Native} {x : Int}
    (hx : x ≤ 0 ∨ x ≤ s.info.free.get r) :
    (s.info.pods.map (·.request.get r)).sum + (s.underWay.map (·.gain r)).sum + x ≤
      s.info.allocatable.get r := by
  have hroom := hs.room r
  have hfree := hs.free_le hheld r
  omega

theorem Sound.request_le (hs : s.Sound) {p : Pod} (hp : p ∈ s.info.pods) (r : Native) :
    p.request.get r ≤ (s.info.pods.map (·.request.get r)).sum :=
  List.single_le_sum (List.forall_mem_map.2 fun q hq ↦ hs.requests q hq r) _
    (List.mem_map.2 ⟨p, hp, rfl⟩)

/-! ### Steps -/

theorem Sound.perm {l : List Preemption} (hs : s.Sound) (hperm : s.underWay.Perm l) :
    Sound ⟨s.info, l⟩ := by
  obtain ⟨others, hclaims, hothers⟩ := hs.claims
  refine ⟨hs.keys, hs.requests, fun h hh ↦ hs.preemptions h (hperm.mem_iff.2 hh),
    fun h hh ↦ hs.victims h (hperm.mem_iff.2 hh), (hperm.map _).nodup_iff.1 hs.texts,
    ⟨others, hclaims.trans ((hperm.map _).append_right _), fun c hc ↦ ?_⟩, fun r ↦ ?_⟩
  · exact ⟨(hothers c hc).1, fun h hh ↦ (hothers c hc).2 h (hperm.mem_iff.2 hh)⟩
  · have hroom := hs.room r
    rwa [(hperm.map _).sum_eq] at hroom

/-- A pod can be added when there is room for it beside what the preemptions may gain. -/
theorem Sound.add {pods : List Pod} {p : Pod} (hs : s.Sound) (hp : p.request.Nonneg)
    (hkey : WorkloadKey.ofPod p ∉ s.info.pods.map WorkloadKey.ofPod)
    (hperm : pods.Perm (p :: s.info.pods))
    (hroom : ∀ r, (s.info.pods.map (·.request.get r)).sum + (s.underWay.map (·.gain r)).sum +
      p.request.get r ≤ s.info.allocatable.get r) : Sound ⟨{ s.info with pods }, s.underWay⟩ := by
  refine ⟨?_, fun q hq ↦ ?_, hs.preemptions, fun h hh hwaiting ↦ ?_, hs.texts, hs.claims,
    fun r ↦ ?_⟩
  · exact (hperm.map _).nodup_iff.2 (List.nodup_cons.2 ⟨hkey, hs.keys⟩)
  · rcases List.mem_cons.1 (hperm.mem_iff.1 hq) with rfl | hq
    · exact hp
    · exact hs.requests q hq
  · obtain ⟨hmem, hvictim⟩ := hs.victims h hh hwaiting
    exact ⟨hperm.mem_iff.2 (List.mem_cons_of_mem _ hmem), hvictim⟩
  · have hr := hroom r
    change (pods.map (·.request.get r)).sum + (s.underWay.map (·.gain r)).sum ≤
      s.info.allocatable.get r
    rw [sum_map_of_perm hperm]
    omega

theorem Sound.place {pods : List Pod} {p : Pod} (hs : s.Sound) (hheld : s.info.HeldInRange)
    (hp : p.request.Nonneg)
    (hkey : WorkloadKey.ofPod p ∉ s.info.pods.map WorkloadKey.ofPod)
    (hfits : insufficientResources p.request s.info = [])
    (hperm : pods.Perm (p :: s.info.pods)) : Sound ⟨{ s.info with pods }, s.underWay⟩ := by
  refine hs.add hp hkey hperm fun r ↦ hs.room_for hheld ?_
  rcases NodeInfo.fits_of_no_reasons r hfits with hzero | hfree
  · exact .inl (Int.le_of_eq hzero)
  · exact .inr hfree

theorem Sound.abandon {h : Preemption} {others : List Preemption}
    (hs : Sound ⟨s.info, h :: others⟩) :
    Sound ⟨s.info, { h with progress := .ended } :: others⟩ ∧
      ∀ r, (s.info.pods.map (·.request.get r)).sum +
        (({ h with progress := .ended } :: others).map (·.gain r)).sum + h.gain r ≤
          s.info.allocatable.get r := by
  have hroom (r : Native) : (s.info.pods.map (·.request.get r)).sum +
      (({ h with progress := .ended } :: others).map (·.gain r)).sum + h.gain r ≤
        s.info.allocatable.get r := by
    have hr := hs.room r
    have hended : Preemption.gain r { h with progress := .ended } = 0 := rfl
    simp only [List.map_cons, List.sum_cons] at hr ⊢
    rw [hended]
    omega
  refine ⟨⟨hs.keys, hs.requests, fun k hk ↦ ?_, fun k hk hwaiting ↦ ?_, hs.texts, ?_,
    fun r ↦ ?_⟩, hroom⟩
  · rcases List.mem_cons.1 hk with rfl | hk
    · exact (hs.preemptions h (List.mem_cons_self ..)).ended
    · exact hs.preemptions k (List.mem_cons_of_mem _ hk)
  · rcases List.mem_cons.1 hk with rfl | hk
    · cases hwaiting
    · exact hs.victims k (List.mem_cons_of_mem _ hk) hwaiting
  · obtain ⟨rest, hclaims, hrest⟩ := hs.claims
    refine ⟨rest, hclaims, fun c hc ↦ ⟨(hrest c hc).1, fun k hk ↦ ?_⟩⟩
    rcases List.mem_cons.1 hk with rfl | hk
    · exact (hrest c hc).2 h (List.mem_cons_self ..)
    · exact (hrest c hc).2 k (List.mem_cons_of_mem _ hk)
  · have hgain := (hs.preemptions h (List.mem_cons_self ..)).gain_nonneg r
    exact (Int.le_add_of_nonneg_right hgain).trans (hroom r)

theorem Sound.bind {pods : List Pod} {h : Preemption} {others : List Preemption} {p : Pod}
    (hs : Sound ⟨s.info, h :: others⟩) (hcleared : h.progress = .cleared)
    (hrequest : p.request = h.preemptor.request)
    (hkey : WorkloadKey.ofPod p ∉ s.info.pods.map WorkloadKey.ofPod)
    (hperm : pods.Perm (p :: s.info.pods)) :
    Sound ⟨{ s.info with pods }, { h with progress := .ended } :: others⟩ := by
  obtain ⟨hended, hroom⟩ := hs.abandon
  have hgain (r : Native) : h.gain r = p.request.get r := by
    rw [Preemption.gain, hcleared, hrequest]
  have hp : p.request.Nonneg := hrequest ▸ (hs.preemptions h (List.mem_cons_self ..)).preemptor
  exact hended.add hp hkey hperm fun r ↦ hgain r ▸ hroom r

theorem Sound.start {node : Node} {p v : Pod} {key : WorkloadKey} {now : Timestamp} (hs : s.Sound)
    (hheld : s.info.HeldInRange) (hp : p.request.Nonneg) (hselect : s.info.selectVictim p = some v)
    (hkey : WorkloadKey.ofPod v = .ok key) (hnonzero : v.request.isZero = false)
    (hreserve : s.info.node.reserve? key.text p.request.toReservation now = some node) :
    Sound ⟨{ s.info with node }, ⟨p, v, key, .waiting⟩ :: s.underWay⟩ := by
  obtain ⟨hmem, key', hkey', hunreserved, hroomy⟩ := NodeInfo.selectVictim_spec hselect
  rw [hkey] at hkey'
  cases hkey'
  obtain ⟨hallocatable, hnode⟩ := Node.reserve?_spec hreserve
  have hfresh := NodeInfo.isReservedVictim_eq_false hunreserved
  have hsum (r : Native) : Word.add (v.request.get r) (s.info.free.get r) =
      v.request.get r + s.info.free.get r := by
    have hrequest := hs.request_le hmem r
    have hfree := hs.free_le hheld r
    have hnonneg := s.info.get_free_nonneg r
    have hgains := hs.gains_nonneg r
    have hv := hs.requests v hmem r
    exact Word.add_of_fits ((s.info.fits_get_allocatable r).of_le (by omega) (by omega))
  have hfrees : ∀ r, p.request.get r ≤ v.request.get r + s.info.free.get r := by
    intro r
    rcases hroomy with hzero | hfrees
    · rw [hnonzero] at hzero
      cases hzero
    · exact hsum r ▸ hfrees r
  obtain ⟨others, hclaims, hothers⟩ := hs.claims
  refine ⟨hs.keys, hs.requests, fun h hh ↦ ?_, fun h hh hwaiting ↦ ?_, ?_,
    ⟨others, ?_, fun c hc ↦ ⟨(hothers c hc).1, fun h hh ↦ ?_⟩⟩, fun r ↦ ?_⟩
  · rcases List.mem_cons.1 hh with rfl | hh
    · exact ⟨hp, hs.requests v hmem⟩
    · exact hs.preemptions h hh
  · rcases List.mem_cons.1 hh with rfl | hh
    · exact ⟨hmem, hkey⟩
    · exact hs.victims h hh hwaiting
  · refine List.nodup_cons.2 ⟨fun htext ↦ ?_, hs.texts⟩
    obtain ⟨h, hh, heq⟩ := List.mem_map.1 htext
    have hclaim : h.claim ∈ s.info.node.claims :=
      hclaims.mem_iff.2 (List.mem_append_left _ (List.mem_map_of_mem hh))
    exact hfresh _ hclaim (congrArg some heq)
  · rw [hnode]
    exact List.perm_append_comm.trans (hclaims.cons _)
  · rcases List.mem_cons.1 hh with rfl | hh
    · exact hfresh c (hclaims.mem_iff.2 (List.mem_append_right _ hc))
    · exact (hothers c hc).2 h hh
  · have hgain : max (p.request.get r - v.request.get r) 0 ≤ 0 ∨
        max (p.request.get r - v.request.get r) 0 ≤ s.info.free.get r := by
      have hr := hfrees r
      omega
    have hroom := hs.room_for hheld hgain
    have hsame : NodeInfo.allocatable { s.info with node } = s.info.allocatable := by
      unfold NodeInfo.allocatable
      rw [hallocatable]
    rw [hsame, List.map_cons, List.sum_cons]
    change (s.info.pods.map (·.request.get r)).sum +
      (max (p.request.get r - v.request.get r) 0 + _) ≤ _
    omega

/-- Only one preemption can have the pod that is removed as its victim. -/
theorem sum_gain_losing {q : Pod} (hq : q.request.Nonneg) (r : Native) {l : List Preemption}
    (hsound : ∀ h ∈ l, h.Sound) (htexts : (l.map (·.key.text)).Nodup)
    (hvictims : ∀ h ∈ l, h.progress = .waiting → WorkloadKey.ofPod q = .ok h.key →
      h.victim = q) :
    ((l.map (·.losing q)).map (·.gain r)).sum ≤ (l.map (·.gain r)).sum + q.request.get r := by
  induction l with
  | nil => exact Int.le_trans (hq r) (Int.le_of_eq (Int.zero_add _).symm)
  | cons h l ih =>
    obtain ⟨hfresh, htexts⟩ := List.nodup_cons.1 htexts
    simp only [List.map_cons, List.sum_cons]
    by_cases hkey : (WorkloadKey.ofPod q).toOption = some h.key
    · have hothers : l.map (·.losing q) = l.map id := by
        refine List.map_congr_left fun k hk ↦ Preemption.losing_of_key_ne fun hkey' ↦ hfresh ?_
        rw [hkey] at hkey'
        exact List.mem_map.2 ⟨k, hk, congrArg WorkloadKey.text (Option.some.inj hkey').symm⟩
      have hhead := (hsound h (List.mem_cons_self ..)).gain_losing_le hq r
        (hvictims h (List.mem_cons_self ..))
      rw [hothers, List.map_id]
      omega
    · have hrest := ih (fun k hk ↦ hsound k (List.mem_cons_of_mem _ hk)) htexts
        fun k hk ↦ hvictims k (List.mem_cons_of_mem _ hk)
      rw [Preemption.losing_of_key_ne hkey]
      omega

theorem Sound.remove {pods : List Pod} {q : Pod} (hs : s.Sound)
    (hperm : s.info.pods.Perm (q :: pods)) :
    Sound ⟨{ s.info with pods }, s.underWay.map (·.losing q)⟩ := by
  have hq : q.request.Nonneg := hs.requests q (hperm.mem_iff.2 (List.mem_cons_self ..))
  have hkeys : ((q :: pods).map WorkloadKey.ofPod).Nodup := (hperm.map _).nodup_iff.1 hs.keys
  obtain ⟨hfresh, hdistinct⟩ := List.nodup_cons.1 hkeys
  have hvictims : ∀ h ∈ s.underWay, h.progress = .waiting → WorkloadKey.ofPod q = .ok h.key →
      h.victim = q := by
    intro h hh hwaiting hkey
    obtain ⟨hmem, hvictim⟩ := hs.victims h hh hwaiting
    rcases List.mem_cons.1 (hperm.mem_iff.1 hmem) with hsame | hmem
    · exact hsame
    · refine absurd (List.mem_map.2 ⟨h.victim, hmem, ?_⟩) hfresh
      rw [hvictim, hkey]
  have hclaims : (s.underWay.map (·.losing q)).map (·.claim) = s.underWay.map (·.claim) := by
    rw [List.map_map]
    exact List.map_congr_left fun h _ ↦ Preemption.losing_claim
  have htexts : (s.underWay.map (·.losing q)).map (·.key.text) = s.underWay.map (·.key.text) := by
    rw [List.map_map]
    exact List.map_congr_left fun h _ ↦ congrArg WorkloadKey.text Preemption.losing_key
  obtain ⟨others, hperm', hothers⟩ := hs.claims
  refine ⟨hdistinct, fun p hp ↦ hs.requests p (hperm.mem_iff.2 (List.mem_cons_of_mem _ hp)),
    fun k hk ↦ ?_, fun k hk hwaiting ↦ ?_, htexts ▸ hs.texts, ⟨others, hclaims ▸ hperm',
    fun c hc ↦ ⟨(hothers c hc).1, fun k hk ↦ ?_⟩⟩, fun r ↦ ?_⟩
  · obtain ⟨h, hh, rfl⟩ := List.mem_map.1 hk
    exact (hs.preemptions h hh).losing
  · obtain ⟨h, hh, rfl⟩ := List.mem_map.1 hk
    obtain ⟨hsame, hkept⟩ := Preemption.losing_waiting hwaiting
    rw [hsame] at hwaiting ⊢
    obtain ⟨hmem, hvictim⟩ := hs.victims h hh hwaiting
    rcases List.mem_cons.1 (hperm.mem_iff.1 hmem) with rfl | hmem
    · rw [hvictim] at hkept
      exact absurd rfl hkept
    · exact ⟨hmem, hvictim⟩
  · obtain ⟨h, hh, rfl⟩ := List.mem_map.1 hk
    rw [Preemption.losing_key]
    exact (hothers c hc).2 h hh
  · have hroom := hs.room r
    have hgains := sum_gain_losing hq r hs.preemptions hs.texts hvictims
    have hrequests := sum_map_of_perm hperm (·.request.get r)
    change (pods.map (·.request.get r)).sum + ((s.underWay.map (·.losing q)).map (·.gain r)).sum ≤
      s.info.allocatable.get r
    omega

/-- Releasing takes away the one condition that holds room back for the preemption. -/
theorem Sound.release {node : Node} {h : Preemption} {others : List Preemption}
    (hs : Sound ⟨s.info, h :: others⟩) (hrelease : s.info.node.release? h.key.text = some node) :
    Sound ⟨{ s.info with node }, others⟩ := by
  obtain ⟨hallocatable, hnode⟩ := Node.release?_spec hrelease
  obtain ⟨hfresh, htexts⟩ := List.nodup_cons.1 hs.texts
  obtain ⟨rest, hclaims, hrest⟩ := hs.claims
  refine ⟨hs.keys, hs.requests, fun k hk ↦ hs.preemptions k (List.mem_cons_of_mem _ hk),
    fun k hk ↦ hs.victims k (List.mem_cons_of_mem _ hk), htexts, ⟨rest, ?_, fun c hc ↦
    ⟨(hrest c hc).1, fun k hk ↦ (hrest c hc).2 k (List.mem_cons_of_mem _ hk)⟩⟩, fun r ↦ ?_⟩
  · have hkept : ∀ c ∈ others.map (·.claim) ++ rest, (c.2 != some h.key.text) = true := by
      intro c hc
      rw [bne_iff_ne]
      rcases List.mem_append.1 hc with hc | hc
      · obtain ⟨k, hk, rfl⟩ := List.mem_map.1 hc
        exact fun heq ↦ hfresh (List.mem_map.2 ⟨k, hk, Option.some.inj heq⟩)
      · exact (hrest c hc).2 h (List.mem_cons_self ..)
    have hgone : ¬ (h.claim.2 != some h.key.text) = true := by
      rw [bne_iff_ne]
      exact fun hne ↦ hne rfl
    have hfiltered := hclaims.filter fun c ↦ c.2 != some h.key.text
    rw [List.map_cons, List.cons_append, List.filter_cons, if_neg hgone,
      List.filter_eq_self.2 hkept] at hfiltered
    rw [hnode]
    exact hfiltered
  · have hroom := hs.room r
    have hgain := (hs.preemptions h (List.mem_cons_self ..)).gain_nonneg r
    have hsame : NodeInfo.allocatable { s.info with node } = s.info.allocatable := by
      unfold NodeInfo.allocatable
      rw [hallocatable]
    rw [List.map_cons, List.sum_cons] at hroom
    rw [hsame]
    change (s.info.pods.map (·.request.get r)).sum + (others.map (·.gain r)).sum ≤
      s.info.allocatable.get r
    change (s.info.pods.map (·.request.get r)).sum + (h.gain r + (others.map (·.gain r)).sum) ≤
      s.info.allocatable.get r at hroom
    omega

theorem Step.sound {s' : Occupancy} (h : Step s s') (hs : s.Sound) : s'.Sound := by
  cases h with
  | place p hheld hp hkey hfits hperm => exact hs.place hheld hp hkey hfits hperm
  | start p v key now hheld hp hselect hkey hnonzero hreserve =>
    exact hs.start hheld hp hselect hkey hnonzero hreserve
  | remove q hperm => exact hs.remove hperm
  | bind h p hunder hcleared hrequest hkey hperm =>
    exact (hs.perm hunder).bind hcleared hrequest hkey hperm
  | abandon h hunder => exact (hs.perm hunder).abandon.1
  | release h hunder _ hrelease => exact (hs.perm hunder).release hrelease

/-! ### Runs -/

abbrev Reaches : Occupancy → Occupancy → Prop := Relation.ReflTransGen Step

theorem Reaches.sound {s' : Occupancy} (h : Reaches s s') (hs : s.Sound) : s'.Sound := by
  induction h with
  | refl => exact hs
  | tail _ hstep ih => exact hstep.sound ih

/-- Before any preemption has begun, it is enough that the pods fit. -/
theorem Sound.initial {n : NodeInfo} (hkeys : (n.pods.map WorkloadKey.ofPod).Nodup)
    (hrequests : ∀ p ∈ n.pods, p.request.Nonneg) (hheld : ∀ q ∈ n.reservations, q.Nonneg)
    (hfits : ∀ r, Word.Fits (n.pods.map (·.request.get r)).sum)
    (hcovers : n.allocatable.covers n.requested = true) : Sound ⟨n, []⟩ := by
  refine ⟨hkeys, hrequests, fun h hh ↦ absurd hh List.not_mem_nil,
    fun h hh ↦ absurd hh List.not_mem_nil, List.nodup_nil,
    ⟨n.node.claims, .rfl, fun c hc ↦ ⟨fun r ↦ ?_, fun h hh ↦ absurd hh List.not_mem_nil⟩⟩,
    fun r ↦ ?_⟩
  · obtain ⟨condition, hcondition, rfl⟩ := List.mem_map.1 hc
    unfold heldBack
    cases hread : Amounts.ofReservation (condition.reason.getD "") with
    | error _ => exact Int.le_refl 0
    | ok q =>
      have hmem : q ∈ n.reservations :=
        List.mem_filterMap.2 ⟨condition, hcondition, by rw [hread]; rfl⟩
      exact hheld q hmem r
  · have hr := Amounts.covers_iff.1 hcovers r
    rw [NodeInfo.get_requested, Word.sum_of_fits (hfits r)] at hr
    rwa [List.map_nil, List.sum_nil, Int.add_zero]

end Occupancy

end PodPlacement
