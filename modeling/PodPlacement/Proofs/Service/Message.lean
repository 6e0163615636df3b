import PodPlacement.Proofs.Json.RoundTrip
import PodPlacement.Service.Message

/-!
A message that was read can be sent on, and is then read as the same message again.
-/

namespace PodPlacement

open Text

theorem Json.nat?_natCast {range : IntegerRange} {n : Nat} (hlo : range.lo ≤ 0)
    (hhi : (n : Int) ≤ range.hi) : (Json.int n).nat? range = some n := by
  have hin : range.contains n = true := by
    rw [IntegerRange.contains, Bool.and_eq_true]
    exact ⟨decide_eq_true (hlo.trans (Int.natCast_nonneg n)), decide_eq_true hhi⟩
  unfold Json.nat? Json.int?
  dsimp only
  rw [if_pos hin]
  rfl

theorem Json.nat?_le {range : IntegerRange} {j : Json} {n : Nat} (hhi : 0 ≤ range.hi)
    (h : j.nat? range = some n) : (n : Int) ≤ range.hi := by
  unfold Json.nat? Json.int? at h
  split at h
  · split at h
    · next hin =>
      rw [IntegerRange.contains, Bool.and_eq_true] at hin
      have hle := of_decide_eq_true hin.2
      cases h
      omega
    · cases h
  · cases h

theorem Json.isPlain_natCast {n : Nat} (h : n < 0x10000000000000000) :
    Json.isPlain (.int n) = true := by
  rw [Json.isPlain, IntegerRange.contains, Bool.and_eq_true]
  refine ⟨decide_eq_true (Int.natCast_nonneg n), decide_eq_true ?_⟩
  change (n : Int) ≤ 0xffffffffffffffff
  omega

namespace Duration

variable {d : Duration}

/-- A duration as one that was read: 64 bits of seconds, and less than a second besides. -/
structure IsCarried (d : Duration) : Prop where
  seconds : d.seconds < 0x10000000000000000
  nanos : d.nanos < nanosPerSecond

theorem isCarried_of_carry? {seconds nanos : Nat} (h : carry? seconds nanos = some d) :
    d.IsCarried := by
  unfold carry? at h
  dsimp only at h
  split at h
  · cases h
    exact ⟨‹_›, Nat.mod_lt _ (by decide)⟩
  · cases h

theorem carry?_of_isCarried (h : d.IsCarried) : carry? d.seconds d.nanos = some d := by
  unfold carry?
  rw [Nat.div_eq_of_lt h.nanos, Nat.mod_eq_of_lt h.nanos]
  exact if_pos h.seconds

theorem isCarried_of_read? {j : Json} (h : read? j = some d) : d.IsCarried := by
  simp only [read?, Option.bind_eq_bind, Option.bind_eq_some_iff] at h
  obtain ⟨_, _, _, _, _, _, hcarry⟩ := h
  exact isCarried_of_carry? hcarry

theorem read?_toJson (h : d.IsCarried) : read? d.toJson = some d := by
  have hseconds : (Json.int d.seconds).nat? .unsigned64 = some d.seconds := by
    refine Json.nat?_natCast (by decide) ?_
    have := h.seconds
    change (d.seconds : Int) ≤ 0xffffffffffffffff
    omega
  have hnanos : (Json.int d.nanos).nat? .unsigned32 = some d.nanos := by
    refine Json.nat?_natCast (by decide) ?_
    have hlt : d.nanos < 1000000000 := h.nanos
    change (d.nanos : Int) ≤ 0xffffffff
    omega
  calc read? d.toJson
      = ((Json.int d.seconds).nat? .unsigned64).bind fun seconds ↦
          ((Json.int d.nanos).nat? .unsigned32).bind fun nanos ↦ carry? seconds nanos := rfl
    _ = some d := by
      rw [hseconds, Option.bind_some, hnanos, Option.bind_some, carry?_of_isCarried h]

theorem isPlain_toJson (h : d.IsCarried) : Json.isPlain d.toJson = true := by
  have hnanos : d.nanos < 1000000000 := h.nanos
  change (Json.isPlain (.int d.seconds) && (Json.isPlain (.int d.nanos) && true)) = true
  rw [Json.isPlain_natCast h.seconds, Json.isPlain_natCast (hnanos.trans (by decide))]
  rfl

end Duration

namespace ScheduleRequest

variable {r : ScheduleRequest}

structure IsRead (r : ScheduleRequest) : Prop where
  lastBackoff : r.lastBackoff < 0x10000000000000000
  processed : r.processed.IsCarried

theorem isRead_of_read? {j : Json} (h : read? j = some r) : r.IsRead := by
  simp only [read?, Option.bind_eq_bind, Option.bind_eq_some_iff] at h
  obtain ⟨f, _, key, _, lastBackoff, hbackoff, processed, hprocessed, message, _, hr⟩ := h
  cases hr
  refine ⟨?_, ?_⟩
  · unfold Fields.optional at hbackoff
    split at hbackoff
    · have hle := Json.nat?_le (by decide) hbackoff
      change (lastBackoff : Int) ≤ 0xffffffffffffffff at hle
      dsimp only
      omega
    · cases hbackoff
      exact Nat.two_pow_pos 64
  · unfold Fields.optional at hprocessed
    split at hprocessed
    · exact Duration.isCarried_of_read? hprocessed
    · cases hprocessed
      exact ⟨Nat.two_pow_pos 64, Nat.zero_lt_succ _⟩

theorem read?_toJson (h : r.IsRead) : read? r.toJson = some r := by
  have hbackoff : (Json.int r.lastBackoff).nat? .unsigned64 = some r.lastBackoff := by
    refine Json.nat?_natCast (by decide) ?_
    have := h.lastBackoff
    change (r.lastBackoff : Int) ≤ 0xffffffffffffffff
    omega
  calc read? r.toJson
      = ((Json.int r.lastBackoff).nat? .unsigned64).bind fun lastBackoff ↦
          (Duration.read? r.processed.toJson).bind fun processed ↦
            some { r with lastBackoff, processed } := rfl
    _ = some r := by
      rw [hbackoff, Option.bind_some, Duration.read?_toJson h.processed, Option.bind_some]

theorem isPlain_toJson (h : r.IsRead) : Json.isPlain r.toJson = true := by
  change (true && (Json.isPlain (.int r.lastBackoff) &&
    (Json.isPlain r.processed.toJson && (true && true)))) = true
  rw [Json.isPlain_natCast h.lastBackoff, Duration.isPlain_toJson h.processed]
  rfl

theorem decode_encode (h : r.IsRead) (queue : String) :
    decodeMessage read? queue r.encode = .ok r := by
  unfold decodeMessage encode
  rw [Body.json?, Json.parse?_compact (isPlain_toJson h), Option.bind_some, read?_toJson h]

theorem isRead_of_decode {queue : String} {body : Body}
    (h : decodeMessage read? queue body = .ok r) : r.IsRead := by
  unfold decodeMessage at h
  split at h
  · next hread =>
    cases h
    obtain ⟨j, _, hj⟩ := Option.bind_eq_some_iff.1 hread
    exact isRead_of_read? hj
  · cases h

end ScheduleRequest

namespace RetryRequest

variable {r : RetryRequest}

theorem read?_toJson (h : r.request.IsRead) : read? r.toJson = some r := by
  calc read? r.toJson
      = (ScheduleRequest.read? r.request.toJson).bind fun request ↦ some { r with request } := rfl
    _ = some r := by rw [ScheduleRequest.read?_toJson h, Option.bind_some]

theorem isPlain_toJson (h : r.request.IsRead) : Json.isPlain r.toJson = true := by
  change (Json.isPlain r.request.toJson && (true && true)) = true
  rw [ScheduleRequest.isPlain_toJson h]
  rfl

theorem decode_encode (h : r.request.IsRead) (queue : String) :
    decodeMessage read? queue r.encode = .ok r := by
  unfold decodeMessage encode
  rw [Body.json?, Json.parse?_compact (isPlain_toJson h), Option.bind_some, read?_toJson h]

end RetryRequest

end PodPlacement
