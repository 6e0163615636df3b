import Mathlib.Data.List.Nodup
import Mathlib.Data.Nat.Basic
import Mathlib.Order.Basic
import PodPlacement.Proofs.Service.Queues

/-!
Queues over any course of sends, receipts, readings and acknowledgements. What is read from a queue
is what was sent on it, in that order and each message once, and the counters tell the truth.
-/

namespace PodPlacement

inductive QueueEvent
  | sent (queue : String) (body : Body) (answer : Except ServiceError Unit)
  | received (queue : String) (answer : Except ServiceError Unit)
  | taken (queue : String) (d : Delivery)
  | acknowledged (d : Delivery)
  | dropped (d : Delivery)
  /-- The consumer of the queue has dropped its stream. -/
  | left (queue : String)
deriving DecidableEq

namespace QueueEvent

def queue? : QueueEvent → Option String
  | sent queue _ _ | received queue _ | taken queue _ | left queue => some queue
  | acknowledged d | dropped d => d.source.map (·.1)

def isRefused : QueueEvent → Bool
  | sent _ _ (.error _) | received _ (.error _) => true
  | _ => false

def sentOn? (name : String) : QueueEvent → Option Body
  | sent queue body (.ok ()) => if queue = name then some body else none
  | _ => none

def takenOn? (name : String) : QueueEvent → Option Delivery
  | taken queue d => if queue = name then some d else none
  | _ => none

def ends (d : Delivery) (e : QueueEvent) : Bool := e == acknowledged d || e == dropped d

end QueueEvent

namespace Queues

def sentOn (name : String) (events : List QueueEvent) : List Body :=
  events.filterMap (·.sentOn? name)

def takenOn (name : String) (events : List QueueEvent) : List Delivery :=
  events.filterMap (·.takenOn? name)

def isAcknowledged (events : List QueueEvent) (d : Delivery) : Bool :=
  events.find? (·.ends d) == some (.acknowledged d)

inductive Step : Queues → QueueEvent → Queues → Prop
  | send (qs : Queues) (name : String) (body : Body) :
      Step qs (.sent name body (qs.send name body).1) (qs.send name body).2
  | receive (qs : Queues) (name : String) :
      Step qs (.received name (qs.receive name).1) (qs.receive name).2
  | take {qs qs' : Queues} {name : String} {d : Delivery} : qs.take? name = some (d, qs') →
      Step qs (.taken name d) qs'
  | acknowledge (qs : Queues) (d : Delivery) : Step qs (.acknowledged d) (qs.acknowledge d)
  | drop (qs : Queues) (d : Delivery) : Step qs (.dropped d) (qs.release d)
  | leave (qs : Queues) (name : String) : Step qs (.left name) (qs.close name)

/-- What can be done after these events. A stream can be used by those who got it and did not drop
it, and a delivery from a queue by those who read it. -/
def Allowed (events : List QueueEvent) : QueueEvent → Prop
  | .sent .. | .received .. => True
  | .taken name _ | .left name => .received name (.ok ()) ∈ events ∧ .left name ∉ events
  | .acknowledged d | .dropped d => ∀ name, d.source.map (·.1) = some name → .taken name d ∈ events

inductive History : List QueueEvent → Queues → Prop
  | start : History [] ∅
  | step {events : List QueueEvent} {qs qs' : Queues} {e : QueueEvent} : History events qs →
      Allowed events e → Step qs e qs' → History (events ++ [e]) qs'

/-- What the events tell about the messages of a queue, whose consumer, waiting messages and number
of messages are these. -/
structure Carried (events : List QueueEvent) (name : String) (consumer : Consumer)
    (waiting : List Body) (sent : Nat) : Prop where
  receipts : events.count (.received name (.ok ())) = if consumer = .awaited then 0 else 1
  gone : consumer = .gone ↔ .left name ∈ events
  order : ∃ lost, sentOn name events = (takenOn name events).map (·.body) ++ (waiting ++ lost) ∧
    (consumer ≠ .gone → lost = [])
  sentCount : sent = (sentOn name events).length

/-- What they tell about its deliveries, of which so many were handed out, these are still out and
so many were acknowledged. -/
structure Handed (events : List QueueEvent) (name : String) (read : Nat) (held : List Nat)
    (acked : Nat) : Prop where
  numbered : (takenOn name events).map (·.source) =
    (List.range read).map fun number ↦ some (name, number)
  ended : ∀ d number, d.source = some (name, number) → events.find? (·.ends d) ≠ none →
    d ∈ takenOn name events
  heldOpen : ∀ d ∈ takenOn name events, ∀ number, d.source = some (name, number) →
    (number ∈ held ↔ events.find? (·.ends d) = none)
  heldOnce : held.Nodup
  heldRead : ∀ number ∈ held, number < read
  ackedCount : acked = (takenOn name events).countP (isAcknowledged events)

structure Accounts (events : List QueueEvent) (name : String) (q : Queue) : Prop where
  carried : Carried events name q.consumer q.waiting q.sent
  handed : Handed events name q.read q.held q.acked

variable {qs qs' : Queues} {events : List QueueEvent} {e : QueueEvent} {name other : String}
  {body : Body} {d : Delivery} {q : Queue} {number : Nat} {consumer : Consumer}
  {waiting : List Body} {sent read acked : Nat} {held : List Nat}

/-! ### One use -/

theorem send_eq (qs : Queues) (name : String) (body : Body) :
    ((qs.queue name).consumer = .gone ∧
      qs.send name body = (.error (.queueUnavailable name "consumer dropped"), qs)) ∨
    ((qs.queue name).consumer ≠ .gone ∧ qs.send name body =
      (.ok (), qs.insert name { qs.queue name with
        waiting := (qs.queue name).waiting ++ [body], sent := (qs.queue name).sent + 1 })) := by
  by_cases hgone : (qs.queue name).consumer = .gone
  · refine .inl ⟨hgone, ?_⟩
    simp [Queues.send, Queue.send?, hgone]
  · refine .inr ⟨hgone, ?_⟩
    simp [Queues.send, Queue.send?, hgone]

theorem receive_eq (qs : Queues) (name : String) :
    ((qs.queue name).consumer ≠ .awaited ∧
      qs.receive name = (.error (.queueUnavailable name "already has a consumer"), qs)) ∨
    ((qs.queue name).consumer = .awaited ∧
      qs.receive name = (.ok (), qs.insert name { qs.queue name with consumer := .present })) := by
  by_cases hawaited : (qs.queue name).consumer = .awaited
  · refine .inr ⟨hawaited, ?_⟩
    simp [Queues.receive, Queue.receive?, hawaited]
  · refine .inl ⟨hawaited, ?_⟩
    simp [Queues.receive, Queue.receive?, hawaited]

theorem take?_eq (h : qs.take? name = some (d, qs')) :
    ∃ rest, (qs.queue name).waiting = d.body :: rest ∧
      d.source = some (name, (qs.queue name).read) ∧
      qs' = qs.insert name { qs.queue name with
        waiting := rest
        read := (qs.queue name).read + 1
        held := (qs.queue name).read :: (qs.queue name).held } := by
  unfold Queues.take? at h
  obtain ⟨⟨number, body, q⟩, htake, heq⟩ := Option.map_eq_some_iff.1 h
  cases heq
  unfold Queue.take? at htake
  split at htake
  · cases htake
  · next hwaiting =>
    cases htake
    exact ⟨_, hwaiting, rfl, rfl⟩

/-- A use of one queue leaves the others as they are. -/
theorem Step.frame (h : Step qs e qs') (hother : e.queue? ≠ some other) :
    qs'.queue other = qs.queue other := by
  have hinsert {name : String} (q : Queue) (hne : some name ≠ some other) :
      Queues.queue (qs.insert name q) other = qs.queue other := by
    rw [queue_insert, if_neg fun heq ↦ hne (congrArg some heq.symm)]
  cases h with
  | send name body =>
    rcases send_eq qs name body with ⟨_, heq⟩ | ⟨_, heq⟩
    · rw [heq]
    · rw [heq]
      exact hinsert _ hother
  | receive name =>
    rcases receive_eq qs name with ⟨_, heq⟩ | ⟨_, heq⟩
    · rw [heq]
    · rw [heq]
      exact hinsert _ hother
  | take htake =>
    obtain ⟨rest, _, _, rfl⟩ := take?_eq htake
    exact hinsert _ hother
  | acknowledge d =>
    unfold Queues.acknowledge
    split
    · next hsource => exact hinsert _ (by simpa [QueueEvent.queue?, hsource] using hother)
    · rfl
  | drop d =>
    unfold Queues.release
    split
    · next hsource => exact hinsert _ (by simpa [QueueEvent.queue?, hsource] using hother)
    · rfl
  | leave name => exact hinsert _ hother

theorem Step.refused (h : Step qs e qs') (hrefused : e.isRefused = true) : qs' = qs := by
  cases h with
  | send name body =>
    rcases send_eq qs name body with ⟨_, heq⟩ | ⟨_, heq⟩
    · rw [heq]
    · rw [heq] at hrefused
      cases hrefused
  | receive name =>
    rcases receive_eq qs name with ⟨_, heq⟩ | ⟨_, heq⟩
    · rw [heq]
    · rw [heq] at hrefused
      cases hrefused
  | take _ => cases hrefused
  | acknowledge d => cases hrefused
  | drop d => cases hrefused
  | leave name => cases hrefused

/-- Who has left does not come back. -/
theorem Step.gone (h : Step qs e qs') (hgone : (qs.queue name).consumer = .gone) :
    (qs'.queue name).consumer = .gone := by
  by_cases hname : e.queue? = some name
  · cases h with
    | send name' body =>
      cases hname
      rcases send_eq qs name body with ⟨_, heq⟩ | ⟨hpresent, _⟩
      · rwa [heq]
      · exact absurd hgone hpresent
    | receive name' =>
      cases hname
      rcases receive_eq qs name with ⟨_, heq⟩ | ⟨hawaited, _⟩
      · rwa [heq]
      · rw [hawaited] at hgone
        cases hgone
    | take htake =>
      cases hname
      obtain ⟨rest, _, _, rfl⟩ := take?_eq htake
      rwa [queue_insert, if_pos rfl]
    | acknowledge d => rwa [(acknowledge_sameMessages qs d name).2]
    | drop d =>
      unfold Queues.release
      split
      · rw [queue_insert]
        split
        · next heq => rwa [← heq]
        · exact hgone
      · exact hgone
    | leave name' =>
      cases hname
      rw [Queues.close, queue_insert, if_pos rfl]
      rfl
  · rwa [h.frame hname]

/-! ### What an event adds to the accounts -/

theorem sentOn_append (name : String) (events : List QueueEvent) (e : QueueEvent) :
    sentOn name (events ++ [e]) = sentOn name events ++ (e.sentOn? name).toList := by
  simp only [sentOn, List.filterMap_append, List.filterMap_cons, List.filterMap_nil]
  cases e.sentOn? name <;> rfl

theorem takenOn_append (name : String) (events : List QueueEvent) (e : QueueEvent) :
    takenOn name (events ++ [e]) = takenOn name events ++ (e.takenOn? name).toList := by
  simp only [takenOn, List.filterMap_append, List.filterMap_cons, List.filterMap_nil]
  cases e.takenOn? name <;> rfl

theorem find?_ends_append (events : List QueueEvent) (h : e.ends d = false) :
    (events ++ [e]).find? (·.ends d) = events.find? (·.ends d) := by
  rw [List.find?_append, List.find?_cons_of_neg (by simp [h]), List.find?_nil, Option.or_none]

theorem ends_iff : e.ends d = true ↔ e = .acknowledged d ∨ e = .dropped d := by
  simp [QueueEvent.ends]

theorem mem_takenOn : d ∈ takenOn name events ↔ .taken name d ∈ events := by
  simp only [takenOn, List.mem_filterMap]
  constructor
  · rintro ⟨e, he, hd⟩
    cases e with
    | taken queue d' =>
      simp only [QueueEvent.takenOn?, Option.ite_none_right_eq_some, Option.some.injEq] at hd
      obtain ⟨rfl, rfl⟩ := hd
      exact he
    | _ => cases hd
  · intro h
    exact ⟨_, h, by simp [QueueEvent.takenOn?]⟩

namespace Carried

variable (h : Carried events name consumer waiting sent)

include h

theorem unchanged (hsent : e.sentOn? name = none) (htaken : e.takenOn? name = none)
    (hreceived : e ≠ .received name (.ok ())) (hleft : e ≠ .left name) :
    Carried (events ++ [e]) name consumer waiting sent := by
  have hsents : sentOn name (events ++ [e]) = sentOn name events := by
    simp [sentOn_append, hsent]
  have htakens : takenOn name (events ++ [e]) = takenOn name events := by
    simp [takenOn_append, htaken]
  refine ⟨?_, ?_, ?_, ?_⟩
  · rw [List.count_append, List.count_singleton, if_neg (by simpa using hreceived), Nat.add_zero]
    exact h.receipts
  · simp only [List.mem_append, List.mem_singleton, hleft.symm, or_false]
    exact h.gone
  · rw [hsents, htakens]
    exact h.order
  · rw [hsents]
    exact h.sentCount

theorem send (hpresent : consumer ≠ .gone) (body : Body) :
    Carried (events ++ [.sent name body (.ok ())]) name consumer (waiting ++ [body])
      (sent + 1) := by
  have hsents : sentOn name (events ++ [.sent name body (.ok ())]) =
      sentOn name events ++ [body] := by
    simp [sentOn_append, QueueEvent.sentOn?]
  have htakens : takenOn name (events ++ [.sent name body (.ok ())]) = takenOn name events := by
    simp [takenOn_append, QueueEvent.takenOn?]
  obtain ⟨lost, horder, hlost⟩ := h.order
  refine ⟨?_, ?_, ⟨[], ?_, fun _ ↦ rfl⟩, ?_⟩
  · simpa using h.receipts
  · simpa using h.gone
  · rw [hsents, htakens, horder, hlost hpresent]
    simp
  · rw [hsents, List.length_append, ← h.sentCount]
    rfl

theorem receive (hawaited : consumer = .awaited) :
    Carried (events ++ [.received name (.ok ())]) name .present waiting sent := by
  have hsents : sentOn name (events ++ [.received name (.ok ())]) = sentOn name events := by
    simp [sentOn_append, QueueEvent.sentOn?]
  have htakens : takenOn name (events ++ [.received name (.ok ())]) = takenOn name events := by
    simp [takenOn_append, QueueEvent.takenOn?]
  have hgone := h.gone
  obtain ⟨lost, horder, hlost⟩ := h.order
  subst hawaited
  refine ⟨?_, ?_, ⟨[], ?_, fun _ ↦ rfl⟩, ?_⟩
  · simpa using h.receipts
  · simpa using hgone
  · rw [hsents, htakens, horder, hlost nofun]
  · rw [hsents]
    exact h.sentCount

theorem take {rest : List Body} (hwaiting : waiting = d.body :: rest) :
    Carried (events ++ [.taken name d]) name consumer rest sent := by
  have hsents : sentOn name (events ++ [.taken name d]) = sentOn name events := by
    simp [sentOn_append, QueueEvent.sentOn?]
  have htakens : takenOn name (events ++ [.taken name d]) = takenOn name events ++ [d] := by
    simp [takenOn_append, QueueEvent.takenOn?]
  obtain ⟨lost, horder, hlost⟩ := h.order
  refine ⟨?_, ?_, ⟨lost, ?_, hlost⟩, ?_⟩
  · simpa using h.receipts
  · simpa using h.gone
  · rw [hsents, htakens, horder, hwaiting]
    simp
  · rw [hsents]
    exact h.sentCount

theorem leave (hpresent : consumer ≠ .awaited) :
    Carried (events ++ [.left name]) name .gone [] sent := by
  have hsents : sentOn name (events ++ [.left name]) = sentOn name events := by
    simp [sentOn_append, QueueEvent.sentOn?]
  have htakens : takenOn name (events ++ [.left name]) = takenOn name events := by
    simp [takenOn_append, QueueEvent.takenOn?]
  have hreceipts := h.receipts
  rw [if_neg hpresent] at hreceipts
  obtain ⟨lost, horder, _⟩ := h.order
  refine ⟨?_, ?_, ⟨waiting ++ lost, ?_, fun hgone ↦ absurd rfl hgone⟩, ?_⟩
  · simpa using hreceipts
  · simp
  · rw [hsents, htakens, horder, List.nil_append]
  · rw [hsents]
    exact h.sentCount

end Carried

namespace Handed

variable (h : Handed events name read held acked)

include h

theorem sources_nodup : ((takenOn name events).map (·.source)).Nodup := by
  rw [h.numbered]
  refine List.nodup_range.map fun a b hab ↦ ?_
  simpa using hab

theorem number_lt (hd : d ∈ takenOn name events) (hsource : d.source = some (name, number)) :
    number < read := by
  have hmem : d.source ∈ (takenOn name events).map (·.source) := List.mem_map_of_mem hd
  rw [h.numbered, hsource] at hmem
  simpa using hmem

theorem exists_number (hd : d ∈ takenOn name events) :
    ∃ number, d.source = some (name, number) := by
  have hmem : d.source ∈ (takenOn name events).map (·.source) := List.mem_map_of_mem hd
  rw [h.numbered] at hmem
  obtain ⟨number, _, hsource⟩ := List.mem_map.1 hmem
  exact ⟨number, hsource.symm⟩

theorem unchanged (htaken : e.takenOn? name = none)
    (hends : ∀ d number, d.source = some (name, number) → e.ends d = false) :
    Handed (events ++ [e]) name read held acked := by
  have htakens : takenOn name (events ++ [e]) = takenOn name events := by
    simp [takenOn_append, htaken]
  refine ⟨?_, ?_, ?_, h.heldOnce, h.heldRead, ?_⟩
  · rw [htakens]
    exact h.numbered
  · intro d number hsource hended
    rw [find?_ends_append events (hends d number hsource)] at hended
    rw [htakens]
    exact h.ended d number hsource hended
  · intro d hd number hsource
    rw [htakens] at hd
    rw [find?_ends_append events (hends d number hsource)]
    exact h.heldOpen d hd number hsource
  · rw [htakens, h.ackedCount]
    refine List.countP_congr fun d hd ↦ ?_
    obtain ⟨number, hsource⟩ := h.exists_number hd
    rw [isAcknowledged, isAcknowledged, find?_ends_append events (hends d number hsource)]

theorem take (hsource : d.source = some (name, read)) :
    Handed (events ++ [.taken name d]) name (read + 1) (read :: held) acked := by
  have htakens : takenOn name (events ++ [.taken name d]) = takenOn name events ++ [d] := by
    simp [takenOn_append, QueueEvent.takenOn?]
  have hfind (d' : Delivery) :
      (events ++ [QueueEvent.taken name d]).find? (·.ends d') = events.find? (·.ends d') :=
    find?_ends_append events rfl
  have hnew : d ∉ takenOn name events := fun hd ↦ Nat.lt_irrefl _ (h.number_lt hd hsource)
  have hopen : events.find? (·.ends d) = none := by
    by_contra hended
    exact hnew (h.ended d _ hsource hended)
  refine ⟨?_, ?_, ?_, ?_, ?_, ?_⟩
  · rw [htakens, List.map_append, h.numbered, List.range_succ, List.map_append, List.map_singleton,
      List.map_singleton, hsource]
  · intro d' number hsource' hended
    rw [hfind] at hended
    rw [htakens]
    exact List.mem_append_left _ (h.ended d' number hsource' hended)
  · intro d' hd' number hsource'
    rw [htakens, List.mem_append, List.mem_singleton] at hd'
    rw [hfind, List.mem_cons]
    rcases hd' with hd' | rfl
    · have hlt := h.number_lt hd' hsource'
      rw [← h.heldOpen d' hd' number hsource']
      exact or_iff_right (Nat.ne_of_lt hlt)
    · have hnumber : number = read := by simpa [hsource] using hsource'.symm
      exact iff_of_true (.inl hnumber) hopen
  · exact List.nodup_cons.2 ⟨fun hmem ↦ Nat.lt_irrefl _ (h.heldRead _ hmem), h.heldOnce⟩
  · intro number hmem
    rcases List.mem_cons.1 hmem with rfl | hmem
    · exact Nat.lt_succ_self _
    · exact (h.heldRead number hmem).trans (Nat.lt_succ_self _)
  · have hacked (d' : Delivery) :
        isAcknowledged (events ++ [.taken name d]) d' = isAcknowledged events d' := by
      rw [isAcknowledged, isAcknowledged, hfind]
    have hcount : isAcknowledged events d = false := by
      rw [isAcknowledged, hopen]
      rfl
    rw [htakens, h.ackedCount, List.countP_append, List.countP_singleton, hacked, hcount]
    exact List.countP_congr fun d' _ ↦ by rw [hacked]

/-- A delivery that was read comes to its end, unless it has done so before. -/
theorem finish (hd : d ∈ takenOn name events) (hsource : d.source = some (name, number))
    (hends : e.ends d = true) :
    Handed (events ++ [e]) name read (held.erase number)
      (acked + if e = .acknowledged d ∧ number ∈ held then 1 else 0) := by
  have htakens : takenOn name (events ++ [e]) = takenOn name events := by
    rcases ends_iff.1 hends with rfl | rfl <;> simp [takenOn_append, QueueEvent.takenOn?]
  have hother {d' : Delivery} (hne : d' ≠ d) :
      (events ++ [e]).find? (·.ends d') = events.find? (·.ends d') := by
    refine find?_ends_append events ?_
    rcases ends_iff.1 hends with rfl | rfl <;> simp [QueueEvent.ends, hne.symm]
  have hfind : (events ++ [e]).find? (·.ends d) = (events.find? (·.ends d)).or (some e) := by
    rw [List.find?_append, List.find?_cons_of_pos hends]
  have hdistinct {d' : Delivery} (hd' : d' ∈ takenOn name events)
      (hsource' : d'.source = some (name, number)) : d' = d :=
    List.inj_on_of_nodup_map h.sources_nodup hd' hd (hsource'.trans hsource.symm)
  refine ⟨?_, ?_, ?_, h.heldOnce.erase _, ?_, ?_⟩
  · rw [htakens]
    exact h.numbered
  · intro d' number' hsource' hended
    rw [htakens]
    by_cases hne : d' = d
    · exact hne ▸ hd
    · rw [hother hne] at hended
      exact h.ended d' number' hsource' hended
  · intro d' hd' number' hsource'
    rw [htakens] at hd'
    rw [h.heldOnce.mem_erase_iff]
    by_cases hne : d' = d
    · have hnumber : number' = number := by simpa [hne, hsource] using hsource'.symm
      subst hne
      rw [hfind]
      cases events.find? (·.ends d') <;> simp [hnumber]
    · have hnumber : number' ≠ number := fun heq ↦ hne (hdistinct hd' (heq ▸ hsource'))
      rw [hother hne, ← h.heldOpen d' hd' number' hsource']
      exact and_iff_right hnumber
  · exact fun number' hmem ↦ h.heldRead number' (List.mem_of_mem_erase hmem)
  · have hperm := List.perm_cons_erase hd
    have hnodup : (takenOn name events).Nodup := h.sources_nodup.of_map
    have hrest : ((takenOn name events).erase d).countP (isAcknowledged (events ++ [e])) =
        ((takenOn name events).erase d).countP (isAcknowledged events) := by
      refine List.countP_congr fun d' hd' ↦ ?_
      rw [isAcknowledged, isAcknowledged, hother (hnodup.mem_erase_iff.1 hd').1]
    have hheld := h.heldOpen d hd number hsource
    rw [htakens, h.ackedCount, hperm.countP_eq, hperm.countP_eq, List.countP_cons, List.countP_cons,
      hrest, isAcknowledged, isAcknowledged, hfind]
    cases hfound : events.find? (·.ends d) with
    | none =>
      have hout : number ∈ held := hheld.2 hfound
      rcases ends_iff.1 hends with rfl | rfl <;> simp [hout]
    | some first =>
      have hin : number ∉ held := fun hout ↦ by simp [hheld.1 hout] at hfound
      simp [hin]

end Handed

namespace Accounts

variable (h : Accounts events name q)

include h

theorem elsewhere (hother : e.queue? ≠ some name) : Accounts (events ++ [e]) name q := by
  have hends d number (hsource : d.source = some (name, number)) : e.ends d = false := by
    by_contra hends
    rw [Bool.not_eq_false, ends_iff] at hends
    rcases hends with rfl | rfl <;> simp [QueueEvent.queue?, hsource] at hother
  have hsent : e.sentOn? name = none := by
    cases e with
    | sent queue body answer =>
      have hqueue : queue ≠ name := by simpa [QueueEvent.queue?] using hother
      cases answer <;> simp [QueueEvent.sentOn?, hqueue]
    | _ => rfl
  have htaken : e.takenOn? name = none := by
    cases e with
    | taken queue d =>
      have hqueue : queue ≠ name := by simpa [QueueEvent.queue?] using hother
      simp [QueueEvent.takenOn?, hqueue]
    | _ => rfl
  refine ⟨h.carried.unchanged hsent htaken ?_ ?_, h.handed.unchanged htaken hends⟩
  · rintro rfl
    exact hother rfl
  · rintro rfl
    exact hother rfl

theorem finish (hd : .taken name d ∈ events) (hsource : d.source = some (name, number))
    (hends : e.ends d = true) :
    Accounts (events ++ [e]) name { q with
      held := q.held.erase number
      acked := q.acked + if e = .acknowledged d ∧ number ∈ q.held then 1 else 0 } := by
  refine ⟨?_, h.handed.finish (mem_takenOn.2 hd) hsource hends⟩
  rcases ends_iff.1 hends with rfl | rfl
  · exact h.carried.unchanged rfl rfl nofun nofun
  · exact h.carried.unchanged rfl rfl nofun nofun

end Accounts

theorem acknowledge_eq (q : Queue) (number : Nat) : q.acknowledge number =
    { q with
      held := q.held.erase number
      acked := q.acked + if number ∈ q.held then 1 else 0 } := by
  unfold Queue.acknowledge
  by_cases hmem : number ∈ q.held
  · simp [hmem]
  · simp [hmem, List.erase_of_not_mem]

theorem exists_source (h : d.source.map (·.1) = some name) :
    ∃ number, d.source = some (name, number) := by
  obtain ⟨⟨_, number⟩, hsource, rfl⟩ := Option.map_eq_some_iff.1 h
  exact ⟨number, hsource⟩

theorem Accounts.step (h : Accounts events name (qs.queue name)) (hallowed : Allowed events e)
    (hstep : Step qs e qs') : Accounts (events ++ [e]) name (qs'.queue name) := by
  by_cases hname : e.queue? = some name
  · cases hstep with
    | send name' body =>
      cases hname
      rcases send_eq qs name body with ⟨_, heq⟩ | ⟨hpresent, heq⟩
      · rw [heq]
        exact ⟨h.carried.unchanged rfl rfl nofun nofun, h.handed.unchanged rfl fun _ _ _ ↦ rfl⟩
      · rw [heq, queue_insert, if_pos rfl]
        exact ⟨h.carried.send hpresent body, h.handed.unchanged rfl fun _ _ _ ↦ rfl⟩
    | receive name' =>
      cases hname
      rcases receive_eq qs name with ⟨_, heq⟩ | ⟨hawaited, heq⟩
      · rw [heq]
        exact ⟨h.carried.unchanged rfl rfl nofun nofun, h.handed.unchanged rfl fun _ _ _ ↦ rfl⟩
      · rw [heq, queue_insert, if_pos rfl]
        exact ⟨h.carried.receive hawaited, h.handed.unchanged rfl fun _ _ _ ↦ rfl⟩
    | take htake =>
      cases hname
      obtain ⟨rest, hwaiting, hsource, rfl⟩ := take?_eq htake
      rw [queue_insert, if_pos rfl]
      exact ⟨h.carried.take hwaiting, h.handed.take hsource⟩
    | acknowledge d =>
      have hd := hallowed name hname
      obtain ⟨number, hsource⟩ := exists_source hname
      have hqueue : (qs.acknowledge d).queue name = (qs.queue name).acknowledge number := by
        simp [Queues.acknowledge, hsource, queue_insert]
      rw [hqueue, acknowledge_eq]
      simpa using h.finish hd hsource (ends_iff.2 (.inl rfl))
    | drop d =>
      have hd := hallowed name hname
      obtain ⟨number, hsource⟩ := exists_source hname
      have hqueue : (qs.release d).queue name =
          { qs.queue name with held := (qs.queue name).held.erase number } := by
        simp [Queues.release, hsource, queue_insert, Queue.release]
      rw [hqueue]
      simpa using h.finish hd hsource (ends_iff.2 (.inr rfl))
    | leave name' =>
      cases hname
      have hpresent : (qs.queue name).consumer ≠ .awaited := by
        intro hawaited
        have hreceipts := h.carried.receipts
        rw [if_pos hawaited, List.count_eq_zero] at hreceipts
        exact hreceipts hallowed.1
      rw [Queues.close, queue_insert, if_pos rfl]
      exact ⟨h.carried.leave hpresent, h.handed.unchanged rfl fun _ _ _ ↦ rfl⟩
  · rw [hstep.frame hname]
    exact h.elsewhere hname

theorem History.accounts (h : History events qs) (name : String) :
    Accounts events name (qs.queue name) := by
  induction h with
  | start =>
    refine ⟨⟨rfl, ⟨nofun, nofun⟩, ⟨[], rfl, fun _ ↦ rfl⟩, rfl⟩, ?_⟩
    refine ⟨rfl, fun _ _ _ hended ↦ absurd rfl hended, ?_, List.nodup_nil, ?_, rfl⟩
    · intro d hd
      cases hd
    · intro number hmem
      cases hmem
  | step _ hallowed hstep ih => exact ih.step hallowed hstep

/-- A stream is dropped by who has received it before. -/
theorem History.received_before (h : History events qs) (hleft : .left name ∈ events) :
    ∃ before after, events = before ++ .left name :: after ∧ .received name (.ok ()) ∈ before := by
  induction h with
  | start => cases hleft
  | @step events qs qs' e _ hallowed _ ih =>
    rcases List.mem_append.1 hleft with hold | hnew
    · obtain ⟨before, after, rfl, hreceived⟩ := ih hold
      exact ⟨before, after ++ [e], by simp, hreceived⟩
    · cases List.mem_singleton.1 hnew
      exact ⟨events, [], rfl, hallowed.1⟩

/-- What is read from a queue is the beginning of what was sent on it, and as long as its stream was
not dropped the rest is waiting. Each message is delivered once and counts as acknowledged once at
most. A queue is received once at most, and takes messages until its stream was received and
dropped. What is refused changes nothing, and what is done with one queue changes no other. -/
theorem delivered_in_order (h : History events qs) :
    (∀ name,
      (∃ rest, sentOn name events = (takenOn name events).map (·.body) ++ rest ∧
        (.left name ∉ events → (qs.queue name).waiting = rest)) ∧
      (takenOn name events).Nodup ∧
      qs.sent name = (sentOn name events).length ∧
      qs.acked name = (takenOn name events).countP (isAcknowledged events) ∧
      qs.acked name ≤ (takenOn name events).length ∧
      (takenOn name events).length ≤ qs.sent name ∧
      events.count (.received name (.ok ())) ≤ 1 ∧
      ∀ body, (qs.send name body).1 ≠ .ok () ↔
        ∃ before after, events = before ++ .left name :: after ∧
          .received name (.ok ()) ∈ before) ∧
    ∀ e qs', Step qs e qs' →
      (e.isRefused = true → qs' = qs) ∧
      ∀ other, e.queue? ≠ some other → qs'.queue other = qs.queue other := by
  refine ⟨fun name ↦ ?_, fun e qs' hstep ↦ ⟨hstep.refused, fun other ↦ hstep.frame⟩⟩
  obtain ⟨hcarried, hhanded⟩ := h.accounts name
  obtain ⟨lost, horder, hlost⟩ := hcarried.order
  have hread : (takenOn name events).length ≤ (sentOn name events).length := by
    rw [horder, List.length_append, List.length_map]
    exact Nat.le_add_right _ _
  have hacked : qs.acked name = (takenOn name events).countP (isAcknowledged events) :=
    hhanded.ackedCount
  have hsent : qs.sent name = (sentOn name events).length := hcarried.sentCount
  refine ⟨⟨_, horder, fun hleft ↦ ?_⟩, hhanded.sources_nodup.of_map, hsent, hacked, ?_, ?_, ?_,
    fun body ↦ ?_⟩
  · rw [hlost fun hgone ↦ hleft (hcarried.gone.1 hgone), List.append_nil]
  · rw [hacked]
    exact List.countP_le_length
  · rwa [hsent]
  · rw [hcarried.receipts]
    split <;> omega
  · have hrefused : (qs.send name body).1 ≠ .ok () ↔ (qs.queue name).consumer = .gone := by
      rcases send_eq qs name body with ⟨hgone, heq⟩ | ⟨hpresent, heq⟩
      · simp [heq, hgone]
      · simp [heq, hpresent]
    rw [hrefused, hcarried.gone]
    constructor
    · exact h.received_before
    · rintro ⟨before, after, rfl, _⟩
      exact List.mem_append_right _ List.mem_cons_self

theorem History.send (h : History events qs) (name : String) (body : Body) :
    History (events ++ [.sent name body (qs.send name body).1]) (qs.send name body).2 :=
  h.step trivial (.send qs name body)

/-- The third message is lost with the stream, and an acknowledgement that comes twice counts
once. -/
theorem delivered_in_order_twice :
    ∃ (events : List QueueEvent) (qs : Queues), History events qs ∧
      sentOn "work" events = ["one", "two", "three"] ∧
      (takenOn "work" events).map (·.body) = ["one", "two"] ∧
      (∃ d, events.count (.acknowledged d) = 2) ∧ .left "work" ∈ events ∧
      qs.sent "work" = 3 ∧ qs.acked "work" = 1 ∧ (qs.send "work" "four").1 ≠ .ok () := by
  let one : Delivery := { body := "one", source := some ("work", 0) }
  let two : Delivery := { body := "two", source := some ("work", 1) }
  let qs₁ := (Queues.send ∅ "work" "one").2
  let qs₂ := (qs₁.receive "work").2
  let qs₃ := ((qs₂.take? "work").getD default).2
  let qs₄ := (qs₃.send "work" "two").2
  let qs₅ := (qs₄.acknowledge one).acknowledge one
  let qs₆ := ((qs₅.take? "work").getD default).2
  have htake₁ : qs₂.take? "work" = some (one, qs₃) := by decide +kernel
  have htake₂ : qs₅.take? "work" = some (two, qs₆) := by decide +kernel
  have hown {events : List QueueEvent} {d : Delivery} (hsource : d.source.map (·.1) = some "work")
      (hd : .taken "work" d ∈ events) (name : String) (hname : d.source.map (·.1) = some name) :
      .taken name d ∈ events := by
    cases hsource.symm.trans hname
    exact hd
  have h₁ : History [.sent "work" "one" (.ok ())] qs₁ := History.start.send "work" "one"
  have h₂ : History [.sent "work" "one" (.ok ()), .received "work" (.ok ())] qs₂ :=
    h₁.step trivial (.receive qs₁ _)
  have h₃ := h₂.step (e := .taken "work" one) ⟨by decide, by decide⟩ (.take htake₁)
  have h₄ := h₃.send "work" "two"
  have h₅ := (h₄.step (e := .acknowledged one) (hown rfl (by decide +kernel))
    (.acknowledge _ _)).step (e := .acknowledged one) (hown rfl (by decide +kernel))
      (.acknowledge _ _)
  have h₆ := h₅.step (e := .taken "work" two) ⟨by decide +kernel, by decide +kernel⟩ (.take htake₂)
  have h₇ := (h₆.step (e := .dropped two) (hown rfl (by decide +kernel)) (.drop _ _)).send "work"
    "three"
  have h₈ := h₇.step (e := .left "work") ⟨by decide +kernel, by decide +kernel⟩ (.leave _ _)
  obtain ⟨haccounts, _⟩ := delivered_in_order h₈
  obtain ⟨_, _, hsent, hacked, _, _, _, hrefused⟩ := haccounts "work"
  refine ⟨_, _, h₈, ?_, ?_, ⟨one, ?_⟩, ?_, hsent.trans ?_, hacked.trans ?_,
    (hrefused "four").2 ⟨_, [], rfl, ?_⟩⟩
  all_goals decide +kernel

end Queues

end PodPlacement
