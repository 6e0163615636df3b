import Mathlib.Data.List.Permutation
import PodPlacement.Proofs.Simulation.Settling

/-!
A relay sends every message back once, when its wait is over.
-/

namespace PodPlacement.World

variable {w : World} {arrived : List (Nat × Body)} {resent : String → List (Nat × Body)}
  {name queue : String} {now : Nat} {m : Nat × Body}

/-! ### What is to come -/

theorem le_of_activityDue {activity : Option Activity}
    (h : activityDue name now activity = some m) : now ≤ m.1 := by
  unfold activityDue at h
  split at h
  · next hold waited =>
    split at h
    · cases h
      cases waited
      · exact Nat.le_add_right _ _
      · exact Nat.le_refl _
    · cases h
  · cases h

theorem Running.lt_of_timerDues (hw : w.Running) (h : m ∈ w.timerDues name) : w.nowMs < m.1 := by
  obtain ⟨t, ht, hdue⟩ := List.mem_filterMap.1 h
  exact (hw.lined.timed t ht).1.trans_le (le_of_activityDue hdue)

theorem Running.le_of_dues (hw : w.Running) (h : m ∈ w.dues name) : w.nowMs ≤ m.1 := by
  rw [dues, List.mem_append, List.mem_append] at h
  rcases h with (hline | htimers) | hinbox
  · obtain ⟨turn, _, hdue⟩ := List.mem_filterMap.1 hline
    exact le_of_activityDue hdue
  · exact (hw.lt_of_timerDues htimers).le
  · obtain ⟨body, _, hdue⟩ := List.mem_filterMap.1 hinbox
    rw [due_eq] at hdue
    exact le_of_activityDue hdue

/-- When nobody is in line only timers are left. -/
theorem Running.lt_of_dues (hw : w.Running) (hready : w.ready = []) (h : m ∈ w.dues name) :
    w.nowMs < m.1 := by
  rw [dues, lineDues, inboxDues, hready, hw.nothing_waiting hready] at h
  exact hw.lt_of_timerDues (by simpa using h)

/-- What has come and not gone back is to go back later. -/
theorem Course.pending (h : Course w arrived resent)
    (hpresent : (w.queues.queue name).consumer ≠ .gone) : ∃ pending,
    (arrived.filterMap (due w.relayQueue name)).Perm (resent name ++ pending) ∧
      ∀ m ∈ pending, w.nowMs ≤ m.1 ∧ (w.ready = [] → w.nowMs < m.1) := by
  have hw := h.kept.running
  obtain ⟨refused, hbalance, hrefused⟩ := h.kept.balance name
  rw [hrefused hpresent, List.append_nil] at hbalance
  exact ⟨w.dues name, hbalance, fun m hm ↦
    ⟨hw.le_of_dues hm, fun hready ↦ hw.lt_of_dues hready hm⟩⟩

/-- What is due by now has gone back when nobody is in line. -/
theorem perm_of_nothing_pending {dues sent pending : List (Nat × Body)}
    (hperm : dues.Perm (sent ++ pending)) (hlater : ∀ m ∈ pending, now < m.1)
    (hdue : ∀ m ∈ dues, m.1 ≤ now) : sent.Perm dues := by
  have hnone : pending = [] := by
    rw [List.eq_nil_iff_forall_not_mem]
    intro m hm
    have hmem := hdue m (hperm.mem_iff.2 (List.mem_append_right _ hm))
    exact Nat.not_lt.2 hmem (hlater m hm)
  rw [hnone, List.append_nil] at hperm
  exact hperm.symm

theorem due_encode {retry : RetryRequest} (hread : retry.request.IsRead) (queue name : String)
    (now : Nat) : due queue name (now, retry.encode) =
      if retry.queue = name then
        some (now + Delay.boundedMs (retry.request.lastBackoff * 1000), retry.request.encode)
      else none := by
  rw [due, RetryRequest.decode_encode hread]

/-- Each retry goes back to its queue once, as the request that it carries and when its wait is
over, in the order in which the waits end; what cannot be read is only acknowledged. No wait is
longer than thirty years. -/
theorem relayed_on_time (h : Course w arrived resent) :
    (∀ turns, w.weight ≤ turns → ∃ resent', Course (w.drain turns) arrived resent' ∧
      (w.drain turns).ready = [] ∧ (w.drain turns).nowMs = w.nowMs ∧
      ∀ name, resent name <+: resent' name) ∧
    (w.ready = [] → w.inbox.waiting = [] ∧ w.inbox.held = [] ∧
      w.inbox.acked = arrived.length + (resent w.relayQueue).length) ∧
    (∀ name, (resent name).Pairwise (·.1 ≤ ·.1)) ∧
    (∀ name, (w.queues.queue name).consumer ≠ .gone → ∃ pending,
      (arrived.filterMap (due w.relayQueue name)).Perm (resent name ++ pending) ∧
        ∀ m ∈ pending, w.nowMs ≤ m.1 ∧ (w.ready = [] → w.nowMs < m.1)) ∧
    (∀ body e, decodeMessage RetryRequest.read? w.relayQueue body = .error e →
      ∀ now name, due w.relayQueue name (now, body) = none) ∧
    ∀ body retry, decodeMessage RetryRequest.read? w.relayQueue body = .ok retry →
      (∀ now name, due w.relayQueue name (now, body) = if retry.queue = name then
        some (now + min (retry.request.lastBackoff * 1000) Delay.longestMs, retry.request.encode)
      else none) ∧
      ∀ queue, decodeMessage ScheduleRequest.read? queue retry.request.encode =
        .ok retry.request := by
  have hw := h.kept.running
  refine ⟨fun turns hturns ↦ ?_, fun hready ↦ ?_, h.kept.ordered, fun name ↦ h.pending,
    fun body e hbody now name ↦ ?_, fun body retry hbody ↦ ⟨fun now name ↦ ?_, fun queue ↦ ?_⟩⟩
  · obtain ⟨resent', hcourse, hrest, hnow, hmore, _⟩ := h.settles hturns
    exact ⟨resent', hcourse, hrest, hnow, hmore⟩
  · have hwaiting := hw.nothing_waiting hready
    have hsent := hw.read.sent
    rw [hwaiting, List.length_nil, Nat.add_zero] at hsent
    exact ⟨hwaiting, hw.read.held, (hw.read.acked.trans hsent.symm).trans h.kept.counted⟩
  · rw [due, hbody]
  · rw [due, hbody]
    rfl
  · have hhold : Hold.ofBody? w.relayQueue body = some ⟨retry.request, retry.queue⟩ := by
      rw [Hold.ofBody?, hbody]
    exact ScheduleRequest.decode_encode (Hold.isRead_of_ofBody? hhold) queue

namespace Returning

/-! A relay that finds messages in its queue when it starts. -/

def retry (key : String) (seconds : Nat) : RetryRequest where
  request := { key, lastBackoff := seconds }
  queue := "out"

theorem isRead_retry {key : String} {seconds : Nat} (h : seconds < 0x10000000000000000) :
    (retry key seconds).request.IsRead := ⟨h, Nat.two_pow_pos 64, Nat.zero_lt_succ _⟩

theorem due_retry {seconds : Nat} (h : seconds < 0x10000000000000000) (key queue : String) :
    due queue "out" (0, (retry key seconds).encode) =
      some (min (seconds * 1000) Delay.longestMs, (retry key seconds).request.encode) := by
  rw [due_encode (isRead_retry h), Nat.zero_add]
  exact if_pos rfl

def idle (backlog : List Body) : World where
  scheduler := {
    framework := {}
    settings := {}
    usage := .fresh Usage.defaultThreshold
    random := .ofSeed 0 }
  worker := { config := {}, retry := {}, evictor := ⟨{}, {}⟩ }
  queues := (∅ : Queues).insert "corral.backoff" { waiting := backlog, sent := backlog.length }
  feeder := default

theorem inbox_idle (backlog : List Body) :
    (idle backlog).inbox = { waiting := backlog, sent := backlog.length } := by
  rw [inbox, idle, Queues.queue_insert]
  exact if_pos rfl

theorem exists_course (backlog : List Body) (ms : Nat) : ∃ w resent,
    Course w (backlog.map (0, ·)) resent ∧ w.ready = [] ∧ w.nowMs = ms ∧
      ∀ name, (w.queues.queue name).consumer ≠ .gone := by
  obtain ⟨w, resent, hcourse, hready, hnow, _, hgone⟩ :=
    (Course.start (w := idle backlog) rfl rfl rfl (inbox_idle backlog)).passes ms
  refine ⟨w, resent, hcourse, hready, hnow.trans (Nat.zero_add ms), fun name h ↦ ?_⟩
  have hidle : ((idle backlog).queues.queue name).consumer = .gone := (hgone name).1 h
  rw [idle, Queues.queue_insert] at hidle
  split at hidle
  · cases hidle
  · cases hidle

end Returning

open Returning in
/-- A message that waits four seconds is overtaken by one that waits one second. -/
theorem relayed_on_time_overtaken : ∃ w resent,
    Course w [(0, (retry "slow" 4).encode), (0, (retry "fast" 1).encode)] resent ∧
      w.ready = [] ∧ w.nowMs = 4000 ∧ 2 ≤ w.inbox.acked ∧
      resent "out" =
        [(1000, (retry "fast" 1).request.encode), (4000, (retry "slow" 4).request.encode)] := by
  obtain ⟨w, resent, hcourse, hready, hnow, hpresent⟩ :=
    exists_course [(retry "slow" 4).encode, (retry "fast" 1).encode] 4000
  obtain ⟨_, hread, hordered, hbalance, _⟩ := relayed_on_time hcourse
  obtain ⟨pending, hperm, hlater⟩ := hbalance "out" (hpresent "out")
  have hslow := due_retry (show 4 < 0x10000000000000000 by decide) "slow" w.relayQueue
  have hfast := due_retry (show 1 < 0x10000000000000000 by decide) "fast" w.relayQueue
  rw [List.map_cons, List.map_cons, List.map_nil, List.filterMap_cons_some hslow,
    List.filterMap_cons_some hfast, List.filterMap_nil] at hperm
  have hsent := perm_of_nothing_pending hperm (fun m hm ↦ (hlater m hm).2 hready)
    (by simp [hnow, Delay.longestMs])
  have hacked : w.inbox.acked = 2 + (resent w.relayQueue).length := (hread hready).2.2
  refine ⟨w, resent, hcourse, hready, hnow, Nat.le.intro hacked.symm, ?_⟩
  rcases List.perm_pair.1 hsent with hcrossed | hresent
  · have hwrong := hordered "out"
    rw [hcrossed] at hwrong
    simp [Delay.longestMs] at hwrong
  · exact hresent

open Returning in
/-- A message that is to wait a thousand million seconds goes back after thirty years. -/
theorem released_early : ∃ w resent,
    decodeMessage RetryRequest.read? w.relayQueue (retry "patient" 1000000000).encode =
      .ok (retry "patient" 1000000000) ∧
    Course w [(0, (retry "patient" 1000000000).encode)] resent ∧
    resent "out" = [(946080000000, (retry "patient" 1000000000).request.encode)] ∧
    946080000000 < 1000000000 * 1000 := by
  obtain ⟨w, resent, hcourse, hready, hnow, hpresent⟩ :=
    exists_course [(retry "patient" 1000000000).encode] Delay.longestMs
  have hlong : 1000000000 < 0x10000000000000000 := by decide
  obtain ⟨pending, hperm, hlater⟩ := hcourse.pending (hpresent "out")
  rw [List.map_cons, List.map_nil, List.filterMap_cons_some (due_retry hlong _ w.relayQueue),
    List.filterMap_nil] at hperm
  have hsent := perm_of_nothing_pending hperm (fun m hm ↦ (hlater m hm).2 hready)
    (by simp [hnow, Delay.longestMs])
  exact ⟨w, resent, RetryRequest.decode_encode (isRead_retry hlong) _, hcourse,
    List.perm_singleton.1 hsent, by decide⟩

end PodPlacement.World
