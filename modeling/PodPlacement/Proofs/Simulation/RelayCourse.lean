import PodPlacement.Proofs.Simulation.Dues

/-!
A relay over any course of messages and of time: when messages go back, and as what.
-/

namespace PodPlacement.World

variable {w w' : World} {arrived : List (Nat × Body)} {resent : String → List (Nat × Body)}
  {name : String} {body : Body} {rest : List Turn} {id ms : Nat} {queues : Queues} {e : QueueEvent}

/-- The course of a world in which a relay was started: the messages that came to the relay and
when, and what was put on each queue in the turns since then, and when. Meanwhile others send
messages to the relay and use every queue but its own; the clock moves when nobody is in line, and
up to the next timer at most. -/
inductive Course : World → List (Nat × Body) → (String → List (Nat × Body)) → Prop
  | start {w : World} {backlog : List Body} : w.tasks = [] → w.ready = [] → w.timers = [] →
      w.inbox = { waiting := backlog, sent := backlog.length } →
      Course (w.spawn .openingRelay).2 (backlog.map (w.nowMs, ·)) fun _ ↦ []
  | publish {w : World} {arrived : List (Nat × Body)} {resent : String → List (Nat × Body)}
      (body : Body) : Course w arrived resent →
      Course (w.send w.relayQueue body).2 (arrived ++ [(w.nowMs, body)]) resent
  | use {w : World} {arrived : List (Nat × Body)} {resent : String → List (Nat × Body)}
      {e : QueueEvent} {queues : Queues} : Course w arrived resent →
      Queues.Step w.queues e queues → e.queue? ≠ some w.relayQueue →
      Course { w with queues } arrived resent
  | turn {w : World} {arrived : List (Nat × Body)} {resent : String → List (Nat × Body)} :
      Course w arrived resent → w.ready ≠ [] →
      Course w.step arrived fun name ↦
        resent name ++ (Queues.gained w.queues w.step.queues name).map (w.nowMs, ·)
  | pass {w : World} {arrived : List (Nat × Body)} {resent : String → List (Nat × Body)}
      {ms : Nat} : Course w arrived resent → w.ready = [] → w.nowMs ≤ ms →
      (∀ t ∈ w.timers, ms ≤ t.dueMs) → Course (w.moveClock ms) arrived resent

/-- What came to the relay went back, or is still to go back, or was refused. What went back to the
relay's own queue came to it once more. -/
structure Kept (w : World) (arrived : List (Nat × Body))
    (resent : String → List (Nat × Body)) : Prop where
  running : w.Running
  balance : ∀ name, ∃ refused,
    (arrived.filterMap (due w.relayQueue name)).Perm (resent name ++ w.dues name ++ refused) ∧
      ((w.queues.queue name).consumer ≠ .gone → refused = [])
  ordered : ∀ name, (resent name).Pairwise (·.1 ≤ ·.1)
  past : ∀ name, ∀ m ∈ resent name, m.1 ≤ w.nowMs
  counted : w.inbox.sent = arrived.length + (resent w.relayQueue).length

/-! ### The beginning -/

theorem Kept.start {backlog : List Body} (htasks : w.tasks = []) (hready : w.ready = [])
    (htimers : w.timers = []) (hinbox : w.inbox = { waiting := backlog, sent := backlog.length }) :
    Kept (w.spawn .openingRelay).2 (backlog.map (w.nowMs, ·)) fun _ ↦ [] := by
  have hnumbered : w.Numbered := ⟨by simp [htasks], by simp [htasks]⟩
  have hdoing (id : Nat) : (w.spawn .openingRelay).2.doing id =
      if id = 0 then some .openingRelay else none := by
    have hnobody : w.doing id = none := by simp [doing, task?, htasks]
    rw [hnumbered.doing_spawn, htasks, hnobody]
    rfl
  have hline : (w.spawn .openingRelay).2.ready = [{ task := 0 }] := by
    rw [World.spawn, hready, htasks]
    rfl
  have hidle : (w.spawn .openingRelay).2.timers = [] := htimers
  have hqueue : (w.spawn .openingRelay).2.inbox = { waiting := backlog, sent := backlog.length } :=
    hinbox
  refine ⟨⟨⟨hnumbered.spawn _, .inl ⟨hdoing 0, ?_⟩, fun id activity hid h ↦ ?_⟩, ?_, ?_⟩,
    fun name ↦ ⟨[], ?_, fun _ ↦ rfl⟩, fun _ ↦ .nil, fun _ _ hm ↦ absurd hm List.not_mem_nil, ?_⟩
  · rw [hqueue]
  · rw [hdoing, if_neg hid] at h
    cases h
  · refine ⟨fun turn hturn ↦ ?_, ?_, fun t ht ↦ ?_, fun _ ↦ ?_⟩
    · rw [hline, List.mem_singleton] at hturn
      rw [hturn]
      exact ⟨rfl, by simp [World.spawn, htasks]⟩
    · rw [hline, hidle]
      exact List.nodup_singleton _
    · rw [hidle] at ht
      cases ht
    · rw [hline]
      exact List.mem_singleton_self _
  · refine ⟨?_, ?_, ?_⟩
    · rw [hqueue]
    · rw [hqueue]
    · rw [hqueue]
      exact (Nat.zero_add _).symm
  · have hnobody : (w.spawn .openingRelay).2.lineDues name = [] := by
      rw [lineDues, hline, List.filterMap_cons, hdoing]
      rfl
    have hnotime : (w.spawn .openingRelay).2.timerDues name = [] := by
      rw [timerDues, hidle]
      rfl
    rw [dues, hnobody, hnotime, inboxDues, hqueue, List.filterMap_map, List.append_nil]
    exact .refl _
  · rw [hqueue, List.length_map]
    rfl

/-! ### Messages from outside -/

theorem dues_of_inbox (hinbox : queues.queue w.relayQueue = w.inbox) (name : String) :
    World.dues { w with queues } name = w.dues name := by
  change w.lineDues name ++ w.timerDues name ++
    (queues.queue w.relayQueue).waiting.filterMap _ = _
  rw [hinbox]
  rfl

theorem Staffed.dues_published (hw : w.Staffed) (name : String) {woken : List Turn}
    (htasks : w'.tasks = w.tasks) (hnow : w'.nowMs = w.nowMs)
    (hqueue : w'.relayQueue = w.relayQueue) (htimers : w'.timers = w.timers)
    (hline : w'.ready = w.ready ++ woken) (hwoken : ∀ turn ∈ woken, turn.task = 0)
    (hwaiting : w'.inbox.waiting = w.inbox.waiting ++ [body]) :
    w'.dues name = w.dues name ++ [(w.nowMs, body)].filterMap (due w.relayQueue name) := by
  have hdoing : w'.doing = w.doing := funext (doing_of_tasks htasks)
  have hidle : woken.filterMap
      (fun turn ↦ activityDue name w.nowMs (w.doing turn.task)) = [] := by
    rw [List.filterMap_eq_nil_iff]
    intro turn hturn
    rw [hwoken turn hturn]
    exact hw.relay_idle name w.nowMs
  rw [dues, lineDues, timerDues, inboxDues, hdoing, hnow, hqueue, htimers, hline, hwaiting,
    List.filterMap_append, hidle, List.append_nil, List.filterMap_append, ← List.append_assoc]
  rfl

theorem Kept.publish (h : Kept w arrived resent) (body : Body) :
    Kept (w.send w.relayQueue body).2 (arrived ++ [(w.nowMs, body)]) resent := by
  obtain ⟨hstaffed, hlined, hread⟩ := h.running
  obtain ⟨woken, hsend, hwoken, hcalled⟩ := hstaffed.send_eq w.relayQueue body
  have hconsumer := send_consumer w.queues w.relayQueue body
  have haccepted : (w.queues.send w.relayQueue body).2.queue w.relayQueue = { w.inbox with
      waiting := w.inbox.waiting ++ [body], sent := w.inbox.sent + 1 } := by
    rcases Queues.send_eq w.queues w.relayQueue body with ⟨hgone, _⟩ | ⟨_, heq⟩
    · rcases hstaffed.relay with ⟨_, hawaited⟩ | ⟨_, hpresent⟩
      · cases hawaited.symm.trans hgone
      · cases hpresent.symm.trans hgone
    · rw [heq, Queues.queue_insert, if_pos rfl]
      rfl
  rw [hsend]
  refine ⟨⟨hstaffed.of_same rfl (hconsumer w.relayQueue), ?_, hread.send rfl⟩, fun name ↦ ?_,
    h.ordered, h.past, ?_⟩
  · refine ⟨fun turn hturn ↦ ?_, nodup_woken hlined.distinct h.running.relay_not_timed hwoken,
      hlined.timed, fun hbusy ↦ ?_⟩
    · rcases List.mem_append.1 hturn with hold | hnew
      · exact hlined.straight turn hold
      · rcases hwoken with rfl | ⟨rfl, _⟩
        · cases hnew
        · rw [List.mem_singleton.1 hnew]
          exact ⟨rfl, hstaffed.pos⟩
    · rcases hstaffed.relay with ⟨hopening, _⟩ | ⟨hrelaying, _⟩
      · rw [List.map_append]
        exact List.mem_append_left _ (hlined.attentive (.inl hopening))
      · exact hcalled rfl hrelaying
  · obtain ⟨refused, hbalance, hrefused⟩ := h.balance name
    refine ⟨refused, ?_, fun hpresent ↦ hrefused fun hgone ↦ hpresent ?_⟩
    · -- only the relay is called, and it sends nothing itself
      have hidle : ∀ turn ∈ woken, turn.task = 0 := by
        intro turn hturn
        rcases hwoken with rfl | ⟨rfl, _⟩
        · cases hturn
        · rw [List.mem_singleton.1 hturn]
      have hdues : World.dues { w with
          queues := (w.queues.send w.relayQueue body).2, ready := w.ready ++ woken } name =
          w.dues name ++ [(w.nowMs, body)].filterMap (due w.relayQueue name) :=
        hstaffed.dues_published name rfl rfl rfl rfl rfl hidle (congrArg Queue.waiting haccepted)
      have hmore : ((arrived ++ [(w.nowMs, body)]).filterMap (due w.relayQueue name)).Perm
          (resent name ++ (w.dues name ++ [(w.nowMs, body)].filterMap (due w.relayQueue name)) ++
            refused) := by
        rw [List.filterMap_append]
        rw [List.perm_iff_count] at hbalance ⊢
        intro m
        have hbalance := hbalance m
        simp only [List.count_append] at hbalance ⊢
        omega
      rw [hdues]
      exact hmore
    · rw [hconsumer]
      exact hgone
  · have hcounted := h.counted
    have hsent : ((w.queues.send w.relayQueue body).2.queue w.relayQueue).sent =
        w.inbox.sent + 1 := congrArg Queue.sent haccepted
    refine hsent.trans ?_
    simp only [List.length_append, List.length_singleton, relayQueue] at hcounted ⊢
    omega

theorem Kept.use (h : Kept w arrived resent) (hstep : Queues.Step w.queues e queues)
    (hother : e.queue? ≠ some w.relayQueue) : Kept { w with queues } arrived resent := by
  have hinbox : queues.queue w.relayQueue = w.inbox := hstep.frame hother
  obtain ⟨hstaffed, hlined, hread⟩ := h.running
  refine ⟨⟨hstaffed.of_same rfl (congrArg Queue.consumer hinbox), ?_, ?_⟩, fun name ↦ ?_, h.ordered,
    h.past, (congrArg Queue.sent hinbox).trans h.counted⟩
  · refine ⟨hlined.straight, hlined.distinct, hlined.timed, fun hbusy ↦ hlined.attentive ?_⟩
    exact hbusy.imp_right fun hwaiting ↦ by rwa [← hinbox]
  · refine hread.of_queue (congrArg Queue.held hinbox) (congrArg Queue.acked hinbox)
      (congrArg Queue.read hinbox) ?_
    change (queues.queue w.relayQueue).sent + _ = _ + (queues.queue w.relayQueue).waiting.length
    rw [hinbox]
  · obtain ⟨refused, hbalance, hrefused⟩ := h.balance name
    rw [dues_of_inbox hinbox]
    exact ⟨refused, hbalance, fun hpresent ↦ hrefused fun hgone ↦ hpresent (hstep.gone hgone)⟩

/-! ### Turns -/

theorem Turned.relayQueue (hw : w.Running) (hturn : Turned w rest id w') :
    w'.relayQueue = w.relayQueue := by
  cases hturn with
  | @resent id h waited hdoing hnow =>
    obtain ⟨woken, hsend, _⟩ := hw.staffed.sends rest h.queue h.body
    rw [hsend]
    rfl
  | _ => rfl

theorem Turned.nowMs (hw : w.Running) (hturn : Turned w rest id w') : w'.nowMs = w.nowMs := by
  cases hturn with
  | @resent id h waited hdoing hnow =>
    obtain ⟨woken, hsend, _⟩ := hw.staffed.sends rest h.queue h.body
    rw [hsend]
    rfl
  | _ => rfl

/-- In a turn nobody leaves a queue or comes back to it. -/
theorem Turned.gone (hw : w.Running) (hturn : Turned w rest id w') (name : String) :
    (w'.queues.queue name).consumer = .gone ↔ (w.queues.queue name).consumer = .gone := by
  have htaken {d : Delivery} {queues : Queues}
      (htake : w.queues.take? w.relayQueue = some (d, queues)) :
      ((queues.acknowledge d).queue name).consumer = (w.queues.queue name).consumer := by
    obtain ⟨_, _, hinbox, hothers⟩ := Queues.taken_acknowledged htake hw.read.held
    by_cases hname : name = w.relayQueue
    · rw [hname, hinbox]
    · rw [hothers name hname]
  cases hturn with
  | opened _ => exact Queues.receive_gone w.queues w.relayQueue name
  | dropped _ htake _ => exact Eq.congr_left (htaken htake)
  | accepted _ htake _ => exact Eq.congr_left (htaken htake)
  | @resent id h waited hdoing hnow =>
    obtain ⟨woken, hsend, _⟩ := hw.staffed.sends rest h.queue h.body
    rw [hsend]
    exact Eq.congr_left (send_consumer w.queues h.queue h.body name)
  | _ => exact Iff.rfl

/-- What is put on a queue in a turn counts as sent. -/
theorem Turned.sent (hw : w.Running) (hturn : Turned w rest id w') (name : String) :
    w'.queues.sent name =
      w.queues.sent name + (Queues.gained w.queues w'.queues name).length := by
  cases hturn with
  | opened _ => exact Queues.sent_of_same (Queues.receive_messages w.queues w.relayQueue name).2
  | dropped _ htake _ => exact Queues.sent_of_same (Queues.taken_sent htake hw.read.held name)
  | accepted _ htake _ => exact Queues.sent_of_same (Queues.taken_sent htake hw.read.held name)
  | @resent id h waited hdoing hnow =>
    obtain ⟨woken, hsend, _⟩ := hw.staffed.sends rest h.queue h.body
    rw [hsend]
    exact Queues.sent_send w.queues h.queue h.body name
  | _ => exact Queues.sent_of_same rfl

theorem Running.exists_turned (hw : w.Running) (hready : w.ready ≠ []) :
    ∃ id rest, w.ready = { task := id } :: rest ∧ Turned w rest id w.step := by
  obtain ⟨turn, rest, hline⟩ := List.exists_cons_of_ne_nil hready
  have hstraight := (hw.lined.straight turn (hline ▸ List.mem_cons_self)).1
  refine ⟨turn.task, rest, ?_, hw.turned hline⟩
  rw [hline]
  cases turn
  cases hstraight
  rfl

theorem Kept.turn (h : Kept w arrived resent) (hready : w.ready ≠ []) :
    Kept w.step arrived fun name ↦
      resent name ++ (Queues.gained w.queues w.step.queues name).map (w.nowMs, ·) := by
  have hw := h.running
  obtain ⟨id, rest, hline, hturn⟩ := hw.exists_turned hready
  refine ⟨hw.turn hline hturn, fun name ↦ ?_, fun name ↦ ?_, fun name m hm ↦ ?_, ?_⟩
  · obtain ⟨refused, hbalance, hrefused⟩ := h.balance name
    -- what this turn sends in vain joins what was refused before
    obtain ⟨more, hdues, hmore⟩ := hturn.dues hw hline name
    rw [hturn.relayQueue hw]
    refine ⟨more ++ refused, ?_, fun hpresent ↦ ?_⟩
    · rw [List.perm_iff_count] at hbalance hdues ⊢
      intro m
      have hbalance := hbalance m
      have hdues := hdues m
      simp only [List.count_append] at hbalance hdues ⊢
      omega
    · have hbefore : (w.queues.queue name).consumer ≠ .gone := fun hgone ↦
        hpresent ((hturn.gone hw name).2 hgone)
      rw [hmore hbefore, hrefused hbefore, List.append_nil]
  · refine List.pairwise_append.2 ⟨h.ordered name, ?_, fun m hm m' hm' ↦ ?_⟩
    · exact List.pairwise_map.2 (List.pairwise_of_forall fun _ _ ↦ Nat.le_refl _)
    · obtain ⟨body, _, rfl⟩ := List.mem_map.1 hm'
      exact h.past name m hm
  · rw [hturn.nowMs hw]
    rcases List.mem_append.1 hm with hold | hnew
    · exact h.past name m hold
    · obtain ⟨body, _, rfl⟩ := List.mem_map.1 hnew
      exact Nat.le_refl _
  · have hsent : w.step.inbox.sent = w.inbox.sent +
        (Queues.gained w.queues w.step.queues w.relayQueue).length := by
      rw [inbox, hturn.relayQueue hw]
      exact hturn.sent hw w.relayQueue
    rw [hsent, h.counted, hturn.relayQueue hw, List.length_append, List.length_map, Nat.add_assoc]

/-! ### The clock -/

/-- Nothing waits for the relay when nobody is in line. -/
theorem Running.quiet (hw : w.Running) (hready : w.ready = []) :
    ¬(w.doing 0 = some .openingRelay ∨ w.inbox.waiting ≠ []) := by
  intro hbusy
  have hmem := hw.lined.attentive hbusy
  rw [hready] at hmem
  cases hmem

theorem Running.nothing_waiting (hw : w.Running) (hready : w.ready = []) :
    w.inbox.waiting = [] := by
  by_contra hwaiting
  exact hw.quiet hready (.inr hwaiting)

theorem moveClock_eq (hready : w.ready = []) (hdistinct : (w.timers.map (·.task)).Nodup)
    (ms : Nat) : w.moveClock ms = { w with
      nowMs := ms
      timers := w.timers.filter fun t ↦ !Decidable.decide (t.dueMs ≤ ms)
      ready := (w.timers.filter (·.dueMs ≤ ms)).map fun t ↦ { task := t.task } } := by
  rw [moveClock, List.partition_eq_filter_filter]
  dsimp only
  rw [foldl_wake]
  · simp [hready, Function.comp_def]
  · simpa [hready] using hdistinct.sublist (List.filter_sublist.map _)

theorem Kept.pass (h : Kept w arrived resent) (hready : w.ready = []) (hlater : w.nowMs ≤ ms)
    (htimers : ∀ t ∈ w.timers, ms ≤ t.dueMs) : Kept (w.moveClock ms) arrived resent := by
  obtain ⟨hstaffed, hlined, hread⟩ := h.running
  have hdistinct := hlined.timers_distinct
  have hquiet := h.running.quiet hready
  have hsplit := List.filter_append_perm (fun t : Timer ↦ Decidable.decide (t.dueMs ≤ ms)) w.timers
  rw [moveClock_eq hready hdistinct]
  refine ⟨⟨hstaffed.of_same rfl rfl, ?_, ⟨hread.held, hread.acked, hread.sent⟩⟩, fun name ↦ ?_,
    h.ordered, fun name m hm ↦ (h.past name m hm).trans hlater, h.counted⟩
  · refine ⟨fun turn hturn ↦ ?_, ?_, fun t ht ↦ ?_, fun hbusy ↦ absurd hbusy hquiet⟩
    · obtain ⟨t, ht, rfl⟩ := List.mem_map.1 hturn
      obtain ⟨_, h, hdoing⟩ := hlined.timed t (List.mem_filter.1 ht).1
      exact ⟨rfl, hstaffed.lt_of_doing hdoing⟩
    · have htasks := hsplit.map (·.task)
      rw [List.map_append] at htasks
      refine (List.Perm.nodup_iff ?_).2 hdistinct
      rw [List.map_map]
      exact htasks
    · obtain ⟨hmem, hdue⟩ := List.mem_filter.1 ht
      exact ⟨by simpa using hdue, (hlined.timed t hmem).2⟩
  · obtain ⟨refused, hbalance, hrefused⟩ := h.balance name
    refine ⟨refused, hbalance.trans (.append_right refused (.append_left (resent name) ?_)),
      hrefused⟩
    have hnobody : w.lineDues name = [] := by
      rw [lineDues, hready]
      rfl
    have hempty := h.running.nothing_waiting hready
    -- a timer that ends now was due now
    have hdue : ((w.timers.filter (·.dueMs ≤ ms)).map fun t ↦ ({ task := t.task } : Turn)).filterMap
        (fun turn ↦ activityDue name ms (w.doing turn.task)) =
        (w.timers.filter (·.dueMs ≤ ms)).filterMap fun t ↦
          activityDue name t.dueMs (w.doing t.task) := by
      rw [List.filterMap_map]
      refine List.filterMap_congr fun t ht ↦ ?_
      obtain ⟨hmem, hended⟩ := List.mem_filter.1 ht
      have hnow : t.dueMs = ms := Nat.le_antisymm (by simpa using hended) (htimers t hmem)
      rw [Function.comp_apply, hnow]
    have hmoved := hsplit.filterMap fun t ↦ activityDue name t.dueMs (w.doing t.task)
    rw [List.filterMap_append, ← hdue] at hmoved
    rw [dues, hnobody, List.nil_append, inboxDues, hempty, List.filterMap_nil, List.append_nil]
    refine hmoved.symm.trans (.of_eq ?_)
    change _ = _ ++ _ ++ w.inbox.waiting.filterMap _
    rw [hempty, List.filterMap_nil, List.append_nil]
    rfl

theorem Course.kept (h : Course w arrived resent) : Kept w arrived resent := by
  induction h with
  | start htasks hready htimers hinbox => exact .start htasks hready htimers hinbox
  | publish body _ ih => exact ih.publish body
  | use _ hstep hother ih => exact ih.use hstep hother
  | turn _ hready ih => exact ih.turn hready
  | pass _ hready hlater htimers ih => exact ih.pass hready hlater htimers

end PodPlacement.World
