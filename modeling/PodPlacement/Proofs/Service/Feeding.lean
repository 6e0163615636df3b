import PodPlacement.Proofs.Json.RoundTrip
import PodPlacement.Proofs.Service.Cache
import PodPlacement.Service.Feeder

/-!
The feeder over any number of calls, with whatever cache it finds and whichever requests it cannot
send. For as long as an incarnation is due it is asked for once, and once again when it is due
again.
-/

namespace PodPlacement

/-! ### The key in a body -/

namespace ScheduleRequest

theorem compact_eq (r : ScheduleRequest) : ∃ rest, r.toJson.compact.toList =
    "\x7b\"key\":\"".toList ++ (r.key.toList.flatMap Json.escapeChar ++ '"' :: rest) := by
  have hwrite : r.toJson.compact.toList = r.toJson.write := String.toList_ofList
  rw [hwrite]
  simp only [toJson, Json.write, Json.writeMembers, Json.sepBy, Json.writeString,
    List.append_assoc, List.cons_append, List.nil_append]
  exact ⟨_, rfl⟩

theorem key_of_encode {r r' : ScheduleRequest} (h : r.encode = r'.encode) : r.key = r'.key := by
  obtain ⟨rest, hr⟩ := r.compact_eq
  obtain ⟨rest', hr'⟩ := r'.compact_eq
  rw [Body.text.inj h, hr'] at hr
  have hread := congrArg Json.readString (List.append_cancel_left hr)
  rw [Json.readString_escaped, Json.readString_escaped] at hread
  simp only [Option.some.injEq, Prod.mk.injEq] at hread
  exact hread.1.symm

theorem keys_of_encodes {rs rs' : List ScheduleRequest}
    (h : rs.map (·.encode) = rs'.map (·.encode)) : rs.map (·.key) = rs'.map (·.key) := by
  induction rs generalizing rs' with
  | nil =>
    cases rs' with
    | nil => rfl
    | cons r' rs' => cases h
  | cons r rs ih =>
    cases rs' with
    | nil => cases h
    | cons r' rs' =>
      obtain ⟨hhead, htail⟩ := List.cons.inj h
      rw [List.map_cons, List.map_cons, key_of_encode hhead, ih htail]

end ScheduleRequest

namespace Feeder

variable {γ : Type} {send : γ → Body → Except ServiceError Unit × γ} {now : Timestamp}
  {c : Cache} {f f' f'' : Feeder} {g g' : γ} {i : Incarnation}

/-! ### What is due -/

/-- The cache holds a pod of that incarnation that has no node and is not finished, asks for the
scheduler of that name and was not given up. -/
def Awaits (name : String) (c : Cache) (i : Incarnation) : Prop :=
  ∃ p ∈ c.cluster.pods.values, p.nodeName? = none ∧ p.isFinished = false ∧
    p.spec.bind (·.schedulerName) = some name ∧ p.phase ≠ Pod.givenUpPhase ∧
    p.incarnation? = some i

theorem mem_pending_iff : i ∈ (f.pending c).map (·.2) ↔ Awaits f.schedulerName c i := by
  simp only [pending, Cache.pendingPods, Awaits, List.mem_map, List.mem_filterMap, List.mem_filter,
    Bool.and_eq_true, Option.isNone_iff_eq_none, Bool.not_eq_true', beq_iff_eq, bne_iff_ne]
  constructor
  · rintro ⟨_, ⟨p, ⟨⟨hp, ⟨hnode, hfinished⟩, hname⟩, hphase⟩, hi⟩, rfl⟩
    obtain ⟨j, hj, rfl⟩ := Option.map_eq_some_iff.1 hi
    exact ⟨p, hp, hnode, hfinished, hname, hphase, hj⟩
  · rintro ⟨p, hp, hnode, hfinished, hname, hphase, hi⟩
    exact ⟨(p, i), ⟨p, ⟨⟨hp, ⟨hnode, hfinished⟩, hname⟩, hphase⟩, by rw [hi]; rfl⟩, rfl⟩

theorem pending_keys_sublist (h : c.Keyed) :
    ((f.pending c).map (·.2.key)).Sublist c.cluster.pods.keys := by
  have hkey (p : Pod) : (p.incarnation?.map (p, ·)).map (·.2.key) = p.keyText? := by
    simp [Pod.incarnation?, Function.comp_def]
  have hall : c.cluster.pods.values.filterMap (·.keyText?) = c.cluster.pods.keys := by
    rw [Table.values, List.filterMap_map, Table.keys, ← List.filterMap_eq_map]
    exact List.filterMap_congr h
  have hdue : ((c.pendingPods f.schedulerName).filter (·.phase != Pod.givenUpPhase)).Sublist
      c.cluster.pods.values := List.filter_sublist.trans List.filter_sublist
  rw [pending, List.map_filterMap, List.filterMap_congr fun p _ ↦ hkey p, ← hall]
  exact hdue.filterMap _

theorem pending_keys_nodup (h : c.Keyed) : ((f.pending c).map (·.2.key)).Nodup :=
  (Table.keys_nodup c.cluster.pods).sublist (pending_keys_sublist h)

/-! ### What is sent -/

def logged (send : γ → Body → Except ServiceError Unit × γ) (g : γ × List Body)
    (body : Body) : Except ServiceError Unit × (γ × List Body) :=
  match send g.1 body with
  | (.ok (), g') => (.ok (), g', g.2 ++ [body])
  | (.error e, g') => (.error e, g', g.2)

def sentBy (send : γ → Body → Except ServiceError Unit × γ) (now : Timestamp) (c : Cache)
    (f : Feeder) (g : γ) : List Body :=
  (f.feedOnce (logged send) now c (g, [])).2.2.2

theorem publish_logged (f : Feeder) (g : γ) (log : List Body) (sent : Nat)
    (due : List (Pod × Incarnation)) :
    publish send now f g sent due =
      ((publish (logged send) now f (g, log) sent due).1,
        (publish (logged send) now f (g, log) sent due).2.1,
        (publish (logged send) now f (g, log) sent due).2.2.1) := by
  induction due generalizing f g log sent with
  | nil => rfl
  | cons d rest ih =>
    obtain ⟨p, i⟩ := d
    simp only [publish, logged]
    rcases send g (request now p i).encode with ⟨_ | _, g'⟩
    · rfl
    · exact ih ..

theorem feedOnce_logged : f.feedOnce send now c g =
    ((f.feedOnce (logged send) now c (g, [])).1, (f.feedOnce (logged send) now c (g, [])).2.1,
      (f.feedOnce (logged send) now c (g, [])).2.2.1) := publish_logged ..

/-- The requests are sent up to the first that cannot be, and what was sent is published. -/
theorem publish_spec (send : γ → Body → Except ServiceError Unit × γ) (now : Timestamp)
    (f : Feeder) (g : γ) (log : List Body) (sent : Nat) (due : List (Pod × Incarnation)) :
    ∃ done rest, due = done ++ rest ∧
      (publish (logged send) now f (g, log) sent due).2.1 =
        { f with published := f.published ++ done.map (·.2) } ∧
      (publish (logged send) now f (g, log) sent due).2.2.2 =
        log ++ done.map (fun d ↦ (request now d.1 d.2).encode) ∧
      ∀ k, (publish (logged send) now f (g, log) sent due).1 = .ok k →
        rest = [] ∧ k = sent + done.length := by
  induction due generalizing f g log sent with
  | nil =>
    refine ⟨[], [], rfl, by simp [publish], by simp [publish], fun k hk ↦ ⟨rfl, ?_⟩⟩
    cases hk
    rfl
  | cons d due ih =>
    obtain ⟨p, i⟩ := d
    simp only [publish, logged]
    rcases send g (request now p i).encode with ⟨e | _, g'⟩
    · refine ⟨[], (p, i) :: due, rfl, by simp, by simp, fun k hk ↦ ?_⟩
      cases hk
    · obtain ⟨done, rest, rfl, hpublished, hsent, hall⟩ := ih
        { f with published := f.published ++ [i] } g' (log ++ [(request now p i).encode]) (sent + 1)
      refine ⟨(p, i) :: done, rest, rfl, ?_, ?_, fun k hk ↦ ?_⟩
      · simp [hpublished]
      · simp [hsent]
      · obtain ⟨hrest, hk⟩ := hall k hk
        refine ⟨hrest, ?_⟩
        rw [List.length_cons]
        omega

def kept (f : Feeder) (c : Cache) : List Incarnation :=
  f.published.filter ((f.pending c).map (·.2)).contains

def fresh (f : Feeder) (c : Cache) : List (Pod × Incarnation) :=
  (f.pending c).filter fun d ↦ !(f.kept c).contains d.2

theorem mem_kept : i ∈ f.kept c ↔ i ∈ f.published ∧ Awaits f.schedulerName c i := by
  rw [kept, List.mem_filter, List.contains_iff_mem, mem_pending_iff]

theorem mem_fresh {d : Pod × Incarnation} :
    d ∈ f.fresh c ↔ d ∈ f.pending c ∧ d.2 ∉ f.published := by
  rw [fresh, List.mem_filter, Bool.not_eq_true', ← Bool.not_eq_true, List.contains_iff_mem,
    mem_kept]
  refine and_congr_right fun hd ↦ not_congr (and_iff_left ?_)
  exact mem_pending_iff.1 (List.mem_map_of_mem hd)

theorem feedOnce_spec (send : γ → Body → Except ServiceError Unit × γ) (now : Timestamp)
    (c : Cache) (f : Feeder) (g : γ) : ∃ done rest, f.fresh c = done ++ rest ∧
      (f.feedOnce send now c g).2.1 = { f with published := f.kept c ++ done.map (·.2) } ∧
      sentBy send now c f g = (done.map fun d ↦ request now d.1 d.2).map (·.encode) ∧
      ∀ k, (f.feedOnce send now c g).1 = .ok k → rest = [] ∧ k = done.length := by
  obtain ⟨done, rest, hsplit, hpublished, hlog, hall⟩ :=
    publish_spec send now { f with published := f.kept c } g [] 0 (f.fresh c)
  rw [feedOnce_logged]
  refine ⟨done, rest, hsplit, hpublished, ?_, fun k hk ↦ ?_⟩
  · rw [List.map_map]
    exact hlog.trans (List.nil_append _)
  · obtain ⟨hrest, hk⟩ := hall k hk
    exact ⟨hrest, hk.trans (Nat.zero_add _)⟩

/-! ### One call -/

/-- A call of the feeder: what it found, what it answered and sent, and what counts as published
afterwards. -/
structure Turn where
  now : Timestamp
  cache : Cache
  answer : Except ServiceError Nat
  sent : List ScheduleRequest
  published : List Incarnation

def Turn.asks (t : Turn) (key : String) : Nat := t.sent.countP (·.key == key)

def mark (f : Feeder) (i : Incarnation) : Nat := if i ∈ f.published then 1 else 0

theorem count_keys {due done : List (Pod × Incarnation)} (hkeys : (due.map (·.2.key)).Nodup)
    (hdone : done.Sublist due) (hi : i ∈ due.map (·.2)) :
    (done.map (·.2.key)).count i.key = if i ∈ done.map (·.2) then 1 else 0 := by
  have hiff : i.key ∈ done.map (·.2.key) ↔ i ∈ done.map (·.2) := by
    constructor
    · intro hkey
      obtain ⟨d, hd, heq⟩ := List.mem_map.1 hkey
      obtain ⟨d', hd', rfl⟩ := List.mem_map.1 hi
      have hsame := List.inj_on_of_nodup_map hkeys (hdone.subset hd) hd' heq
      exact hsame ▸ List.mem_map_of_mem hd
    · intro hmem
      obtain ⟨d, hd, rfl⟩ := List.mem_map.1 hmem
      exact List.mem_map_of_mem hd
  rw [(hkeys.sublist (hdone.map _)).count]
  simp only [hiff]

/-- The pods that a call asked for, and what it made of the feeder. -/
structure Takes (f : Feeder) (t : Turn) (f' : Feeder) (done : List (Pod × Incarnation)) : Prop where
  due : done.Sublist (f.pending t.cache)
  fresh : ∀ d ∈ done, d.2 ∉ f.published
  name : f'.schedulerName = f.schedulerName
  published : ∀ i, i ∈ f'.published ↔
    i ∈ f.published ∧ Awaits f.schedulerName t.cache i ∨ i ∈ done.map (·.2)
  sent : t.sent.map (·.key) = done.map (·.2.key)
  complete : ∀ k, t.answer = .ok k →
    (∀ d ∈ f.pending t.cache, d.2 ∈ f.published ∨ d ∈ done) ∧ done.length = k

theorem exists_takes {t : Turn} (hfeed : f.feedOnce send t.now t.cache g = (t.answer, f', g'))
    (hsent : sentBy send t.now t.cache f g = t.sent.map (·.encode)) :
    ∃ done, Takes f t f' done := by
  obtain ⟨done, rest, hsplit, hpublished, hbodies, hall⟩ := feedOnce_spec send t.now t.cache f g
  rw [hfeed] at hpublished hall
  have hf' : f' = { f with published := f.kept t.cache ++ done.map (·.2) } := hpublished
  have hkeys := ScheduleRequest.keys_of_encodes (hsent.symm.trans hbodies)
  rw [List.map_map] at hkeys
  refine ⟨done, ?_, ?_, by rw [hf'], ?_, hkeys, ?_⟩
  · exact (List.sublist_append_left done rest).trans (hsplit ▸ List.filter_sublist)
  · intro d hd
    have hmem : d ∈ f.fresh t.cache := hsplit ▸ List.mem_append_left rest hd
    exact (mem_fresh.1 hmem).2
  · intro i
    rw [hf', List.mem_append, mem_kept]
  · intro k hk
    obtain ⟨rfl, rfl⟩ := hall k hk
    refine ⟨fun d hd ↦ ?_, rfl⟩
    by_cases hold : d.2 ∈ f.published
    · exact .inl hold
    · have hmem := mem_fresh.2 ⟨hd, hold⟩
      rw [hsplit, List.append_nil] at hmem
      exact .inr hmem

structure Fed (f : Feeder) (t : Turn) (f' : Feeder) : Prop where
  name : f'.schedulerName = f.schedulerName
  awaited : ∀ i ∈ f'.published, Awaits f.schedulerName t.cache i
  complete : ∀ k, t.answer = .ok k →
    (∀ i, Awaits f.schedulerName t.cache i → i ∈ f'.published) ∧ t.sent.length = k
  counted : ∀ i, Awaits f.schedulerName t.cache i → f.mark i + t.asks i.key = f'.mark i

theorem Takes.fed {t : Turn} {done : List (Pod × Incarnation)} (h : Takes f t f' done)
    (hcache : t.cache.Reachable) : Fed f t f' := by
  refine ⟨h.name, ?_, ?_, ?_⟩
  · intro i hi
    rcases (h.published i).1 hi with ⟨_, hdue⟩ | hdone
    · exact hdue
    · exact mem_pending_iff.1 ((h.due.map (·.2)).subset hdone)
  · intro k hk
    obtain ⟨hall, rfl⟩ := h.complete k hk
    refine ⟨fun i hi ↦ (h.published i).2 ?_, ?_⟩
    · obtain ⟨d, hd, rfl⟩ := List.mem_map.1 (mem_pending_iff.2 hi)
      rcases hall d hd with hold | hdone
      · exact .inl ⟨hold, hi⟩
      · exact .inr (List.mem_map_of_mem hdone)
    · rw [← List.length_map (·.key), h.sent, List.length_map]
  · intro i hi
    have hasks : t.asks i.key = if i ∈ done.map (·.2) then 1 else 0 := by
      rw [← count_keys (pending_keys_nodup hcache.keyed) h.due (mem_pending_iff.2 hi), ← h.sent,
        List.count_eq_countP, List.countP_map]
      rfl
    have hapart : i ∈ f.published → i ∉ done.map (·.2) := by
      intro hold hmem
      obtain ⟨d, hd, rfl⟩ := List.mem_map.1 hmem
      exact h.fresh d hd hold
    have hiff : i ∈ f'.published ↔ i ∈ f.published ∨ i ∈ done.map (·.2) := by
      rw [h.published, and_iff_left hi]
    simp only [hasks, mark, hiff]
    by_cases hold : i ∈ f.published
    · simp only [hold, hapart hold, if_true, if_false, true_or]
    · simp only [hold, if_false, false_or, Nat.zero_add]

/-! ### Calls in a row -/

/-- Calls of the feeder, each of which may find any cache, send in any way and fail at any request;
and the feeders before the first and after the last of them. -/
inductive History : Feeder → List Turn → Feeder → Prop
  | done (f : Feeder) : History f [] f
  | call {γ : Type} {send : γ → Body → Except ServiceError Unit × γ} {g g' : γ}
      {f f' f'' : Feeder} {t : Turn} {turns : List Turn} : t.cache.Reachable →
      f.feedOnce send t.now t.cache g = (t.answer, f', g') →
      sentBy send t.now t.cache f g = t.sent.map (·.encode) → t.published = f'.published →
      History f' turns f'' → History f (t :: turns) f''

def turn (send : γ → Body → Except ServiceError Unit × γ) (now : Timestamp) (c : Cache)
    (f : Feeder) (g : γ) (sent : List ScheduleRequest) : Turn where
  now := now
  cache := c
  answer := (f.feedOnce send now c g).1
  sent := sent
  published := (f.feedOnce send now c g).2.1.published

variable {turns before run after : List Turn}

theorem History.next {sent : List ScheduleRequest} (h : c.Reachable)
    (hsent : sentBy send now c f g = sent.map (·.encode))
    (hlater : History (f.feedOnce send now c g).2.1 turns f'') :
    History f (turn send now c f g sent :: turns) f'' := .call h rfl hsent rfl hlater

theorem History.exists_fed {t : Turn} : History f (t :: turns) f'' →
    ∃ f', Fed f t f' ∧ t.published = f'.published ∧ History f' turns f'' := by
  rintro (_ | ⟨hcache, hfeed, hsent, hpublished, hlater⟩)
  obtain ⟨done, htakes⟩ := exists_takes hfeed hsent
  exact ⟨_, htakes.fed hcache, hpublished, hlater⟩

theorem mark_le_one (f : Feeder) (i : Incarnation) : f.mark i ≤ 1 := by
  unfold mark
  split <;> omega

theorem mark_eq_one (h : i ∈ f.published) : f.mark i = 1 := if_pos h

theorem History.name (h : History f turns f') : f'.schedulerName = f.schedulerName := by
  induction turns generalizing f with
  | nil =>
    cases h
    rfl
  | cons t turns ih =>
    obtain ⟨between, hfed, _, hlater⟩ := h.exists_fed
    rw [ih hlater, hfed.name]

theorem history_append : History f (before ++ after) f'' →
    ∃ f', History f before f' ∧ History f' after f'' := by
  intro h
  induction before generalizing f with
  | nil => exact ⟨f, .done f, h⟩
  | cons t before ih =>
    cases h with
    | call hcache hfeed hsent hpublished hlater =>
      obtain ⟨f', hbefore, hafter⟩ := ih hlater
      exact ⟨f', .call hcache hfeed hsent hpublished hbefore, hafter⟩

theorem History.turn (h : History f turns f') : ∀ t ∈ turns,
    (∀ i ∈ t.published, Awaits f.schedulerName t.cache i) ∧ ∀ k, t.answer = .ok k →
      (∀ i, Awaits f.schedulerName t.cache i → i ∈ t.published) ∧ t.sent.length = k := by
  induction turns generalizing f with
  | nil => exact fun t ht ↦ nomatch ht
  | cons t turns ih =>
    obtain ⟨between, hfed, hpublished, hlater⟩ := h.exists_fed
    intro u hu
    rcases List.mem_cons.1 hu with rfl | hu
    · rw [hpublished]
      exact ⟨hfed.awaited, hfed.complete⟩
    · have hrest := ih hlater u hu
      rwa [hfed.name] at hrest

/-- Over calls at all of which an incarnation is due, the requests for it add up to what makes it
count as published. -/
theorem History.counted (h : History f turns f')
    (hdue : ∀ t ∈ turns, Awaits f.schedulerName t.cache i) :
    f.mark i + (turns.flatMap (·.sent)).countP (·.key == i.key) = f'.mark i ∧
      ((∃ t ∈ turns, ∃ k, t.answer = .ok k) → f'.mark i = 1) := by
  induction turns generalizing f with
  | nil =>
    cases h
    simp
  | cons t turns ih =>
    obtain ⟨between, hfed, _, hlater⟩ := h.exists_fed
    have hnow := hdue t (List.mem_cons_self ..)
    obtain ⟨hcount, hdone⟩ := ih hlater fun u hu ↦ by
      rw [hfed.name]
      exact hdue u (List.mem_cons_of_mem _ hu)
    have hstep := hfed.counted i hnow
    rw [List.flatMap_cons, List.countP_append]
    unfold Turn.asks at hstep
    refine ⟨by omega, ?_⟩
    rintro ⟨u, hu, k, hk⟩
    rcases List.mem_cons.1 hu with rfl | hu
    · have hmark := mark_eq_one ((hfed.complete k hk).1 i hnow)
      have hle := f'.mark_le_one i
      omega
    · exact hdone ⟨u, hu, k, hk⟩

theorem History.mark_eq_zero (h : History f turns f') (hnew : f.published = [])
    (hlast : ∀ t ∈ turns.getLast?, ¬Awaits f.schedulerName t.cache i) : f'.mark i = 0 := by
  rcases List.eq_nil_or_concat turns with rfl | ⟨before, t, rfl⟩
  · cases h
    simp [mark, hnew]
  · obtain ⟨between, hbefore, hcall⟩ := history_append (by simpa using h)
    obtain ⟨_, hfed, _, hdone⟩ := hcall.exists_fed
    cases hdone
    have hnow : ¬Awaits f.schedulerName t.cache i := hlast t (by simp)
    refine if_neg fun hmem ↦ hnow ?_
    rw [← hbefore.name]
    exact hfed.awaited i hmem

/-- Only what is due counts as published after a call, and all of it does after a call that
succeeds; such a call answers how many requests it has sent. While an incarnation is due without
interruption it is asked for once at most, and exactly once by the time that a call succeeds if it
was not due just before. -/
theorem published_once (hnew : f.published = []) (h : History f turns f') :
    (∀ t ∈ turns, (∀ i ∈ t.published, Awaits f.schedulerName t.cache i) ∧
      ∀ k, t.answer = .ok k →
        (∀ i, Awaits f.schedulerName t.cache i → i ∈ t.published) ∧ t.sent.length = k) ∧
    ∀ before run after i, turns = before ++ run ++ after →
      (∀ t ∈ run, Awaits f.schedulerName t.cache i) →
      (run.flatMap (·.sent)).countP (·.key == i.key) ≤ 1 ∧
        ((∀ t ∈ before.getLast?, ¬Awaits f.schedulerName t.cache i) →
          (∃ t ∈ run, ∃ k, t.answer = .ok k) →
          (run.flatMap (·.sent)).countP (·.key == i.key) = 1) := by
  refine ⟨h.turn, ?_⟩
  rintro before run after i rfl hdue
  obtain ⟨f₂, hfirst, _⟩ := history_append h
  obtain ⟨f₁, hbefore, hrun⟩ := history_append hfirst
  rw [← hbefore.name] at hdue
  obtain ⟨hcount, hdone⟩ := hrun.counted hdue
  have hle := f₂.mark_le_one i
  refine ⟨by omega, fun hfresh hok ↦ ?_⟩
  have hzero := hbefore.mark_eq_zero hnew hfresh
  have hone := hdone hok
  omega

/-- The second request cannot be sent at first. Then its pod is bound, and comes back. -/
theorem published_once_failing :
    let db : Incarnation := ⟨"default/db", "u1"⟩
    let web : Incarnation := ⟨"default/web", "u2"⟩
    ∃ both bound : Cache, ∃ t₁ t₂ t₃ t₄ : Turn, ∃ f f' : Feeder, f.published = [] ∧
      History f ([t₁, t₂] ++ [t₃] ++ [t₄]) f' ∧
      Awaits f.schedulerName both web ∧ ¬Awaits f.schedulerName bound web ∧
      t₁.cache = both ∧ t₁.published = [db] ∧ t₁.answer.toOption = none ∧
      t₂.cache = both ∧ t₂.answer = .ok 1 ∧
      t₃.cache = bound ∧ t₃.answer = .ok 0 ∧ web ∉ t₃.published ∧
      t₄.cache = both ∧ t₄.answer = .ok 1 ∧
      ([t₁, t₂].flatMap (·.sent)).countP (·.key == web.key) = 1 ∧
      ([t₄].flatMap (·.sent)).countP (·.key == web.key) = 1 := by
  intro db web
  let pod (name uid : String) (node : Option String) : Pod :=
    { metadata := { name := some name, uid := some uid },
      spec := some { containers := [], schedulerName := some "placer", nodeName := node } }
  let send (script : List Bool) (_ : Body) : Except ServiceError Unit × List Bool :=
    (if script.head? = some false then .error (.queueUnavailable "work" "closed") else .ok (),
      script.tail)
  let both : Cache := Cache.replace {} [] [pod "web" "u2" none, pod "db" "u1" none]
  let bound : Cache := Cache.replace {} [] [pod "web" "u2" (some "n1"), pod "db" "u1" none]
  let f₁ : Feeder := { queue := "work", schedulerName := "placer" }
  let f₂ := (f₁.feedOnce send default both [true, false]).2.1
  let f₃ := (f₂.feedOnce send default both []).2.1
  let f₄ := (f₃.feedOnce send default bound []).2.1
  let t₁ := turn send default both f₁ [true, false] [{ key := db.key }]
  let t₂ := turn send default both f₂ [] [{ key := web.key }]
  let t₃ := turn send default bound f₃ [] []
  let t₄ := turn send default both f₄ [] [{ key := web.key }]
  have hboth : both.Reachable := .replace _ _ .empty
  have hbound : bound.Reachable := .replace _ _ .empty
  have h₄ : History f₄ [t₄] (f₄.feedOnce send default both []).2.1 :=
    .next hboth (by decide +kernel) (.done _)
  have h₃ : History f₃ [t₃, t₄] _ := .next hbound (by decide +kernel) h₄
  have h₂ : History f₂ [t₂, t₃, t₄] _ := .next hboth (by decide +kernel) h₃
  have h₁ : History f₁ [t₁, t₂, t₃, t₄] _ := .next hboth (by decide +kernel) h₂
  have hdue : Awaits f₁.schedulerName both web := by
    rw [← mem_pending_iff]
    decide +kernel
  have hgone : ¬Awaits f₁.schedulerName bound web := by
    rw [← mem_pending_iff]
    decide +kernel
  have hanswers : t₁.answer.toOption = none ∧ t₂.answer = .ok 1 ∧ t₃.answer = .ok 0 ∧
      t₄.answer = .ok 1 ∧ t₁.published = [db] := by
    decide +kernel
  obtain ⟨hfirst, hsecond, hthird, hfourth, hpublished⟩ := hanswers
  obtain ⟨hturns, hruns⟩ := published_once rfl h₁
  obtain ⟨_, honce⟩ := hruns [] [t₁, t₂] [t₃, t₄] web rfl (by simp [t₁, t₂, turn, hdue])
  obtain ⟨_, hagain⟩ := hruns [t₁, t₂, t₃] [t₄] [] web rfl (by simp [t₄, turn, hdue])
  refine ⟨both, bound, t₁, t₂, t₃, t₄, f₁, _, rfl, h₁, hdue, hgone, rfl, hpublished, hfirst,
    rfl, hsecond, rfl, hthird, ?_, rfl, hfourth, ?_, ?_⟩
  · exact fun hmem ↦ hgone ((hturns t₃ (by simp)).1 web hmem)
  · exact honce (by simp) ⟨t₂, by simp, 1, hsecond⟩
  · exact hagain (by simpa [t₃, turn] using hgone) ⟨t₄, by simp, 1, hfourth⟩

end Feeder

end PodPlacement
