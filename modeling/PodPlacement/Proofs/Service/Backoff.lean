import Mathlib.Data.Nat.Log
import PodPlacement.Proofs.Service.Course

/-!
How often a request is tried. Each time that its workload is found to be unschedulable its wait
grows, up to the longest wait, after which it is given up; failures of another kind leave the wait
as it is.
-/

namespace PodPlacement

/-! ### Messages on their way back -/

theorem Hold.ofBody?_encode {r : RetryRequest} (h : r.request.IsRead) (queue : String) :
    Hold.ofBody? queue r.encode = some ⟨r.request, r.queue⟩ := by
  unfold Hold.ofBody?
  rw [RetryRequest.decode_encode h]

theorem Hold.isRead_of_ofBody? {queue : String} {body : Body} {h : Hold}
    (hbody : Hold.ofBody? queue body = some h) : h.request.IsRead := by
  unfold Hold.ofBody? decodeMessage at hbody
  split at hbody
  · next retry hretry =>
    cases hbody
    split at hretry
    · next hread =>
      cases hretry
      obtain ⟨j, _, hj⟩ := Option.bind_eq_some_iff.1 hread
      simp only [RetryRequest.read?, Option.bind_eq_bind, Option.bind_eq_some_iff] at hj
      obtain ⟨f, _, request, hrequest, queue, _, hr⟩ := hj
      cases hr
      obtain ⟨j, _, hj⟩ := Option.bind_eq_some_iff.1 hrequest
      exact ScheduleRequest.isRead_of_read? hj
    · cases hretry
  · cases hbody

/-- A request that comes without a queue to go back to is not held. -/
theorem Hold.ofBody?_request {r : ScheduleRequest} (h : r.IsRead) (queue : String) :
    Hold.ofBody? queue r.encode = none := by
  unfold Hold.ofBody? decodeMessage ScheduleRequest.encode
  rw [Body.json?, Json.parse?_compact (ScheduleRequest.isPlain_toJson h), Option.bind_some]
  rfl

namespace Worker

variable {w : Worker} {r : ScheduleRequest}

/-! ### The wait -/

theorem growBackoff_eq (hmax : 1 ≤ w.config.maxBackoff)
    (hbound : w.config.maxBackoff ≤ 0x8000000000000000) {last : Nat}
    (hlast : last < w.config.maxBackoff) :
    w.growBackoff last = min (max (2 * last) 1) w.config.maxBackoff := by
  have htwice : last * 2 % 0x10000000000000000 = last * 2 := Nat.mod_eq_of_lt (by omega)
  rw [growBackoff, htwice]
  omega

/-- The wait of a request that began without one, after it was refused so many times. -/
def waitAfter (w : Worker) : Nat → Nat
  | 0 => 0
  | refusals + 1 => min (2 ^ refusals) w.config.maxBackoff

theorem waitAfter_le_growBackoff (hmax : 1 ≤ w.config.maxBackoff)
    (hbound : w.config.maxBackoff ≤ 0x8000000000000000) {refusals last : Nat}
    (hlast : last < w.config.maxBackoff) (h : w.waitAfter refusals ≤ last) :
    w.waitAfter (refusals + 1) ≤ w.growBackoff last := by
  rw [growBackoff_eq hmax hbound hlast]
  cases refusals with
  | zero =>
    simp only [waitAfter, Nat.pow_zero]
    omega
  | succ refusals =>
    have hpow : 2 ^ (refusals + 1) = 2 * 2 ^ refusals := Nat.pow_succ'
    simp only [waitAfter] at h ⊢
    omega

theorem maxBackoff_le_waitAfter (hmax : 1 ≤ w.config.maxBackoff) (refusals : Nat) :
    w.config.maxBackoff ≤ w.waitAfter refusals ↔
      1 + Nat.clog 2 w.config.maxBackoff ≤ refusals := by
  cases refusals with
  | zero =>
    simp only [waitAfter]
    omega
  | succ refusals =>
    simp only [waitAfter]
    rw [Nat.le_min, and_iff_left (Nat.le_refl _), Nat.add_comm 1, Nat.add_le_add_iff_right]
    exact (Nat.clog_le_iff_le_pow Nat.one_lt_two).symm

/-! ### Attempts in a row -/

/-- Attempts at one request, each made with what the relay sends back after the one before. The list
tells of each whether it found the workload to be unschedulable; in the end the request is on its
way once more, or it was given up. -/
inductive Chain (w : Worker) : Body → List Bool → Option Body → Prop
  | nil (body : Body) : Chain w body [] (some body)
  | again {queue : String} {body sent : Body} {deeds : List Deed} {wait : Nat} {h : Hold}
      {later : List Bool} {last : Option Body} :
      Course w.next (w.begin body) deeds (.finished (.ok (.retrying wait))) →
      (queue, sent) ∈ deeds.filterMap (·.sending?) → Hold.ofBody? queue sent = some h →
      Chain w h.body later last → Chain w body (deeds.any (·.refuses) :: later) last
  | ended {body : Body} {deeds : List Deed} :
      Course w.next (w.begin body) deeds (.finished (.ok .gaveUp)) →
      Chain w body [deeds.any (·.refuses)] none

variable {queue : String} {body sent : Body} {deeds : List Deed} {wait : Nat} {h : Hold}

theorem growBackoff_lt (w : Worker) (last : Nat) : w.growBackoff last < 0x10000000000000000 := by
  unfold growBackoff
  omega

/-- What the relay sends back is a request whose wait is as it was, or was short and has grown. -/
theorem decode_again
    (hbody : decodeMessage ScheduleRequest.read? w.config.receiveQueue body = .ok r)
    (hcourse : Course w.next (w.begin body) deeds (.finished (.ok (.retrying wait))))
    (hsent : (queue, sent) ∈ deeds.filterMap (·.sending?))
    (hhold : Hold.ofBody? queue sent = some h) :
    ∃ r', decodeMessage ScheduleRequest.read? w.config.receiveQueue h.body = .ok r' ∧
      (deeds.any (·.refuses) = false ∧ r'.lastBackoff = r.lastBackoff ∨
        deeds.any (·.refuses) = true ∧ r.lastBackoff < w.config.maxBackoff ∧
          r'.lastBackoff = w.growBackoff r.lastBackoff) := by
  have hread := ScheduleRequest.isRead_of_decode hbody
  have hfate := fate_of_course hbody hcourse
  generalize deeds.any (·.refuses) = refused at hfate ⊢
  generalize deeds.filterMap (·.sending?) = sendings at hfate hsent
  generalize hresult : Except.ok (Outcome.retrying wait) = result at hfate
  cases hfate with
  | settled _ hother => exact absurd hresult.symm (hother wait)
  | requeued reason answer =>
    cases List.mem_singleton.1 hsent
    have hread' : ({ r with message := reason } : ScheduleRequest).IsRead :=
      ⟨hread.lastBackoff, hread.processed⟩
    rw [Hold.ofBody?_encode hread'] at hhold
    cases hhold
    exact ⟨_, ScheduleRequest.decode_encode hread' _, .inl ⟨rfl, rfl⟩⟩
  | postponed reason answer hshort =>
    cases List.mem_singleton.1 hsent
    have hread' : ({ r with lastBackoff := w.growBackoff r.lastBackoff, message := reason } :
        ScheduleRequest).IsRead := ⟨w.growBackoff_lt _, hread.processed⟩
    rw [Hold.ofBody?_encode hread'] at hhold
    cases hhold
    exact ⟨_, ScheduleRequest.decode_encode hread' _, .inr ⟨rfl, hshort, rfl⟩⟩
  | gaveUp _ => cases hresult

theorem refused_of_gaveUp
    (hbody : decodeMessage ScheduleRequest.read? w.config.receiveQueue body = .ok r)
    (hcourse : Course w.next (w.begin body) deeds (.finished (.ok .gaveUp))) :
    deeds.any (·.refuses) = true ∧ w.config.maxBackoff ≤ r.lastBackoff := by
  have hfate := fate_of_course hbody hcourse
  generalize deeds.any (·.refuses) = refused at hfate ⊢
  generalize deeds.filterMap (·.sending?) = sendings at hfate
  generalize hresult : Except.ok Outcome.gaveUp = result at hfate
  cases hfate with
  | settled hother _ => exact absurd hresult.symm hother
  | requeued reason answer => cases answer <;> cases hresult
  | postponed reason answer _ => cases answer <;> cases hresult
  | gaveUp hlong => exact ⟨rfl, hlong⟩

/-- A request whose wait has grown at least so far can only be refused so many times more. -/
theorem Chain.count_le {refusals : List Bool} {last : Option Body}
    (hmax : 1 ≤ w.config.maxBackoff) (hbound : w.config.maxBackoff ≤ 0x8000000000000000)
    (hchain : Chain w body refusals last)
    {before : Nat} (hbefore : before ≤ 1 + Nat.clog 2 w.config.maxBackoff)
    (hbody : decodeMessage ScheduleRequest.read? w.config.receiveQueue body = .ok r)
    (hwait : w.waitAfter before ≤ r.lastBackoff) :
    before + refusals.count true ≤ 2 + Nat.clog 2 w.config.maxBackoff ∧
      (last ≠ none → before + refusals.count true < 2 + Nat.clog 2 w.config.maxBackoff) := by
  -- All that an attempt hands on is how far the wait has grown, so `before` goes up with each
  -- refusal and `waitAfter before` stays below the wait.
  induction hchain generalizing r before with
  | nil body =>
    rw [List.count_nil]
    omega
  | @again body queue sent deeds wait h later last hcourse hsent hhold _ ih =>
    obtain ⟨r', hbody', ⟨hrefused, hsame⟩ | ⟨hrefused, hshort, hgrown⟩⟩ :=
      decode_again hbody hcourse hsent hhold
    · rw [hrefused, List.count_cons_of_ne (by decide)]
      exact ih hbefore hbody' (hsame ▸ hwait)
    · have hshort' := hwait.trans_lt hshort
      have hnext : w.waitAfter (before + 1) ≤ r'.lastBackoff :=
        hgrown ▸ waitAfter_le_growBackoff hmax hbound hshort hwait
      have hbefore' : before + 1 ≤ 1 + Nat.clog 2 w.config.maxBackoff := by
        have := (maxBackoff_le_waitAfter hmax before).not.1 (Nat.not_le.2 hshort')
        omega
      rw [hrefused, List.count_cons_self, Nat.add_comm (later.count true), ← Nat.add_assoc]
      exact ih hbefore' hbody' hnext
  | @ended body deeds hcourse =>
    rw [(refused_of_gaveUp hbody hcourse).1]
    refine ⟨?_, fun hne ↦ absurd rfl hne⟩
    rw [List.count_singleton_self]
    omega

variable {key : WorkloadKey} {later : List Bool} {last : Option Body}

theorem begin_encode (hread : r.IsRead) (hkey : WorkloadKey.parse r.key = .ok key) :
    w.begin r.encode = .fetching r key := by
  unfold begin
  rw [ScheduleRequest.decode_encode hread]
  dsimp only
  rw [hkey]

def noRoom : SchedulingError := .unschedulable "" "no room"

theorem Chain.refused (hread : r.IsRead) (hkey : WorkloadKey.parse r.key = .ok key)
    (hshort : r.lastBackoff < w.config.maxBackoff)
    (hlater : Chain w ({ r with
      lastBackoff := w.growBackoff r.lastBackoff, message := noRoom.message } :
        ScheduleRequest).encode later last) : Chain w r.encode (true :: later) last := by
  let r' : ScheduleRequest :=
    { r with lastBackoff := w.growBackoff r.lastBackoff, message := noRoom.message }
  have hread' : r'.IsRead := ⟨w.growBackoff_lt _, hread.processed⟩
  have hbackOff (p : Pod) : w.backOff r p noRoom.message = .warning r' p :=
    if_neg (Nat.not_le.2 hshort)
  have hcourse : Course w.next (w.begin r.encode)
      [.called (.getWorkload key.space key.name) (.ok {}), .decided {} (.error noRoom),
        .called (w.event default {} Event.warningType (retryNotice r')) (.ok ()),
        .sent w.config.backoffQueue (w.retryRequest r').encode (.ok ())]
      (.finished (.ok (.retrying r'.lastBackoff))) := by
    rw [begin_encode hread hkey]
    refine .step default (.call _) (.step default (.decide _ .zero) ?_)
    change Course w.next (w.backOff r {} noRoom.message) _ _
    rw [hbackOff]
    exact .step default (.call _) (.step default (.send _) (.stay _))
  exact .again hcourse (List.mem_singleton_self _) (Hold.ofBody?_encode hread' _) hlater

theorem Chain.failed (hread : r.IsRead) (hkey : WorkloadKey.parse r.key = .ok key)
    (hlater : Chain w ({ r with message := (ClusterError.transport "down").message } :
      ScheduleRequest).encode later last) : Chain w r.encode (false :: later) last := by
  let r' : ScheduleRequest := { r with message := (ClusterError.transport "down").message }
  have hread' : r'.IsRead := ⟨hread.lastBackoff, hread.processed⟩
  have hcourse : Course w.next (w.begin r.encode)
      [.called (.getWorkload key.space key.name) (.error (.transport "down")),
        .sent w.config.backoffQueue (w.retryRequest r').encode (.ok ())]
      (.finished (.ok (.retrying r'.lastBackoff))) := by
    rw [begin_encode hread hkey]
    exact .step default (.call _) (.step default (.send _) (.stay _))
  exact .again hcourse (List.mem_singleton_self _) (Hold.ofBody?_encode hread' _) hlater

theorem Chain.gaveUp (hread : r.IsRead) (hkey : WorkloadKey.parse r.key = .ok key)
    (hlong : w.config.maxBackoff ≤ r.lastBackoff) : Chain w r.encode [true] none := by
  have hbackOff (p : Pod) : w.backOff r p noRoom.message = .partingNotice p noRoom.message :=
    if_pos hlong
  have hcourse : Course w.next (w.begin r.encode)
      [.called (.getWorkload key.space key.name) (.ok {}), .decided {} (.error noRoom),
        .called (w.event default {} Event.fatalType (partingText noRoom.message)) (.ok ())]
      (.finished (.ok .gaveUp)) := by
    rw [begin_encode hread hkey]
    refine .step default (.call _) (.step default (.decide _ .zero) ?_)
    change Course w.next (w.backOff r {} noRoom.message) _ _
    rw [hbackOff]
    exact .step default (.call _) (.stay _)
  exact .ended hcourse

end Worker

end PodPlacement
