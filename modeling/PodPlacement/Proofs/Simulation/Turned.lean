import PodPlacement.Proofs.Simulation.Relay

/-!
What a turn keeps in a world with a relay, and what it does to the messages.
-/

namespace PodPlacement

theorem Queues.taken_acknowledged {qs qs' : Queues} {name : String} {d : Delivery}
    (h : qs.take? name = some (d, qs')) (hheld : (qs.queue name).held = []) :
    ∃ later, (qs.queue name).waiting = d.body :: later ∧
      (qs'.acknowledge d).queue name = { qs.queue name with
        waiting := later, read := (qs.queue name).read + 1, acked := (qs.queue name).acked + 1 } ∧
      ∀ other, other ≠ name → (qs'.acknowledge d).queue other = qs.queue other := by
  obtain ⟨later, hwaiting, hsource, rfl⟩ := Queues.take?_eq h
  refine ⟨later, hwaiting, ?_, fun other hne ↦ ?_⟩
  · simp [Queues.acknowledge, hsource, Queues.queue_insert, Queue.acknowledge, hheld]
  · simp [Queues.acknowledge, hsource, Queues.queue_insert, hne]

theorem Queues.receive_gone (qs : Queues) (queue name : String) :
    ((qs.receive queue).2.queue name).consumer = .gone ↔ (qs.queue name).consumer = .gone := by
  rcases Queues.receive_eq qs queue with ⟨_, heq⟩ | ⟨hawaited, heq⟩
  · rw [heq]
  · rw [heq, Queues.queue_insert]
    split
    · next hname => simp [hname, hawaited]
    · rfl

namespace World

variable {w w' : World} {id : Nat} {name : String} {body : Body} {h : Hold} {activity : Activity}
  {rest : List Turn}

/-! ### Who is there -/

theorem doing_of_tasks (h : w'.tasks = w.tasks) (id : Nat) : w'.doing id = w.doing id := by
  rw [doing, doing, task?, task?, h]

theorem Staffed.pos (hw : w.Staffed) : 0 < w.tasks.length := by
  rcases hw.relay with ⟨hdoing, _⟩ | ⟨hdoing, _⟩
  · exact hw.lt_of_doing hdoing
  · exact hw.lt_of_doing hdoing

theorem Staffed.ne_zero (hw : w.Staffed) (hdoing : w.doing id = some activity)
    (hother : activity ≠ .openingRelay ∧ activity ≠ .relaying) : id ≠ 0 := by
  rintro rfl
  rcases hw.relay with ⟨hrelay, _⟩ | ⟨hrelay, _⟩
  · exact hother.1 (Option.some.inj (hdoing.symm.trans hrelay))
  · exact hother.2 (Option.some.inj (hdoing.symm.trans hrelay))

theorem Staffed.present (hw : w.Staffed) (hrelaying : w.doing 0 = some .relaying) :
    w.inbox.consumer = .present := by
  rcases hw.relay with ⟨hopening, _⟩ | ⟨_, hpresent⟩
  · cases hrelaying.symm.trans hopening
  · exact hpresent

/-- Nothing counts but the tasks and the consumer of the relay's queue. -/
theorem Staffed.of_same (hw : w.Staffed) (htasks : w'.tasks = w.tasks)
    (hconsumer : w'.inbox.consumer = w.inbox.consumer) : w'.Staffed := by
  have hdoing (id : Nat) := doing_of_tasks htasks id
  refine ⟨⟨?_, ?_⟩, ?_, ?_⟩
  · rw [htasks]
    exact hw.ids
  · rw [htasks]
    exact hw.free
  · rw [hdoing, hconsumer]
    exact hw.relay
  · intro id activity hid h
    exact hw.others id activity hid (hdoing id ▸ h)

/-- A message that is sent by whoever has the turn. -/
theorem Staffed.sends (hw : w.Staffed) (rest : List Turn) (queue : String) (body : Body) : ∃ woken,
    (World.send { w with ready := rest } queue body).2 = { w with
      queues := (w.queues.send queue body).2, ready := rest ++ woken } ∧
    (woken = [] ∨ woken = [{ task := 0 }] ∧ 0 ∉ rest.map (·.task)) ∧
    (queue = w.relayQueue → w.doing 0 = some .relaying → 0 ∈ (rest ++ woken).map (·.task)) := by
  have hline : Staffed { w with ready := rest } := hw.of_same rfl rfl
  exact hline.send_eq queue body

theorem become_numbered (hw : w.Numbered) (id : Nat) (activity : Activity) :
    (w.become id activity).Numbered := hw.putTask rfl

theorem Staffed.help (hw : w.Staffed) (activity : Activity) (hid : id ≠ 0)
    (hhelps : Helps activity) : (w.become id activity).Staffed := by
  refine ⟨become_numbered hw.toNumbered _ _, ?_, fun other activity' hother hdoing ↦ ?_⟩
  · rw [doing_become, if_neg hid.symm]
    exact hw.relay
  · rw [doing_become] at hdoing
    split at hdoing
    · obtain ⟨_, _, rfl⟩ := Option.map_eq_some_iff.1 hdoing
      exact hhelps
    · exact hw.others other activity' hother hdoing

theorem Staffed.relays (hw : w.Staffed) (queues : Queues)
    (hpresent : (queues.queue w.relayQueue).consumer = .present) :
    (World.become { w with queues } 0 .relaying).Staffed := by
  have hnumbered : Numbered { w with queues } := ⟨hw.ids, hw.free⟩
  obtain ⟨activity, hdoing⟩ := hnumbered.exists_doing hw.pos
  refine ⟨become_numbered hnumbered _ _, .inr ⟨?_, hpresent⟩,
    fun other activity' hother hother' ↦ ?_⟩
  · rw [doing_become, if_pos rfl, hdoing]
    rfl
  · rw [doing_become, if_neg hother] at hother'
    exact hw.others other activity' hother hother'

theorem Staffed.spawn_hold (hw : w.Staffed) (hread : h.request.IsRead) :
    (w.spawn (.holding h false)).2.Staffed := by
  refine ⟨hw.toNumbered.spawn _, ?_, fun other activity' hother hdoing ↦ ?_⟩
  · rw [hw.doing_spawn, if_neg hw.pos.ne]
    exact hw.relay
  · rw [hw.doing_spawn] at hdoing
    split at hdoing
    · cases hdoing
      exact hread
    · exact hw.others other activity' hother hdoing

theorem send_consumer (qs : Queues) (queue : String) (body : Body) (name : String) :
    ((qs.send queue body).2.queue name).consumer = (qs.queue name).consumer := by
  rcases Queues.send_eq qs queue body with ⟨_, heq⟩ | ⟨_, heq⟩
  · rw [heq]
  · rw [heq, Queues.queue_insert]
    split
    · next hname => rw [hname]
    · rfl

theorem Turned.staffed (hw : w.Running) (hturn : Turned w rest id w') : w'.Staffed := by
  have hstaffed := hw.staffed
  cases hturn with
  | opened hopening =>
    apply hstaffed.relays
    rcases hstaffed.relay with ⟨_, hawaited⟩ | ⟨hrelaying, _⟩
    · rcases Queues.receive_eq w.queues w.relayQueue with ⟨hnot, _⟩ | ⟨_, heq⟩
      · exact absurd hawaited hnot
      · rw [heq, Queues.queue_insert, if_pos rfl]
    · cases hopening.symm.trans hrelaying
  | dropped hrelaying htake hbody =>
    obtain ⟨_, _, hinbox, _⟩ := Queues.taken_acknowledged htake hw.read.held
    apply hstaffed.relays
    rw [hinbox]
    exact hstaffed.present hrelaying
  | @accepted d queues h hrelaying htake hbody =>
    obtain ⟨_, _, hinbox, _⟩ := Queues.taken_acknowledged htake hw.read.held
    have hpresent : ((queues.acknowledge d).queue w.relayQueue).consumer = .present := by
      rw [hinbox]
      exact hstaffed.present hrelaying
    exact (hstaffed.spawn_hold (Hold.isRead_of_ofBody? hbody)).relays _ hpresent
  | idle hrelaying hwaiting =>
    exact (hstaffed.relays w.queues (hstaffed.present hrelaying)).of_same rfl rfl
  | held hdoing hwait =>
    have hid := hstaffed.ne_zero hdoing (by simp)
    have hhelps := hstaffed.others _ _ hid hdoing
    exact (hstaffed.help (.holding _ true) hid hhelps).of_same rfl rfl
  | @resent id h waited hdoing hnow =>
    have hid := hstaffed.ne_zero hdoing (by simp)
    obtain ⟨woken, hsend, _⟩ := hstaffed.sends rest h.queue h.body
    rw [hsend]
    exact (hstaffed.help (.ended _) hid trivial).of_same rfl
      (send_consumer w.queues h.queue h.body w.relayQueue)
  | finished hdoing =>
    have hid := hstaffed.ne_zero hdoing (by simp)
    exact (hstaffed.help (.ended _) hid trivial).of_same rfl rfl

/-! ### Who is in line -/

theorem Lined.apart (hw : w.Lined) {turn : Turn} (hready : w.ready = turn :: rest) :
    (∀ other ∈ rest, other.task ≠ turn.task) ∧ ∀ t ∈ w.timers, t.task ≠ turn.task := by
  have hdistinct := hw.distinct
  rw [hready, List.map_cons, List.cons_append, List.nodup_cons, List.mem_append,
    not_or] at hdistinct
  obtain ⟨⟨hrest, htimers⟩, _⟩ := hdistinct
  exact ⟨fun other hother heq ↦ hrest (heq ▸ List.mem_map_of_mem hother),
    fun t ht heq ↦ htimers (heq ▸ List.mem_map_of_mem ht)⟩

theorem Lined.timers_distinct (hw : w.Lined) : (w.timers.map (·.task)).Nodup :=
  hw.distinct.of_append_right

theorem length_become (w : World) (id : Nat) (activity : Activity) :
    (w.become id activity).tasks.length = w.tasks.length := List.length_map _

theorem Running.doing_turn (hw : w.Running) (hready : w.ready = { task := id } :: rest)
    (htasks : w'.tasks = (w.become id activity).tasks) : w'.doing id = some activity := by
  obtain ⟨before, hbefore⟩ :=
    hw.staffed.exists_doing (hw.lined.straight { task := id } (hready ▸ List.mem_cons_self)).2
  rw [doing_of_tasks htasks, doing_become, if_pos rfl, hbefore]
  rfl

theorem Running.relay_not_timed (hw : w.Running) : 0 ∉ w.timers.map (·.task) := by
  intro hmem
  obtain ⟨t, ht, hid⟩ := List.mem_map.1 hmem
  obtain ⟨_, h, hdoing⟩ := hw.lined.timed t ht
  exact hw.staffed.ne_zero hdoing (by simp) hid

theorem Lined.queues (hw : w.Lined) {queues : Queues} (hmem : 0 ∈ w.ready.map (·.task)) :
    Lined { w with queues } := ⟨hw.straight, hw.distinct, hw.timed, fun _ ↦ hmem⟩

/-- The relay goes on. -/
theorem Lined.relay (hw : w.Lined) (hnot : 0 ∉ w.timers.map (·.task))
    (hmem : 0 ∈ w.ready.map (·.task)) : (w.become 0 .relaying).Lined := by
  refine ⟨fun turn hturn ↦ ?_, hw.distinct, fun t ht ↦ ?_, fun _ ↦ hmem⟩
  · rw [length_become]
    exact hw.straight turn hturn
  · obtain ⟨hdue, h, hdoing⟩ := hw.timed t ht
    have hother : t.task ≠ 0 := fun heq ↦ hnot (List.mem_map.2 ⟨t, ht, heq⟩)
    refine ⟨hdue, h, ?_⟩
    rw [doing_become, if_neg hother]
    exact hdoing

/-- Somebody new comes to the end of the line. -/
theorem Lined.spawn (hw : w.Lined) (hnumbered : w.Numbered) (activity : Activity)
    (hmem : 0 ∈ w.ready.map (·.task)) : (w.spawn activity).2.Lined := by
  have hnew : ∀ id ∈ w.ready.map (·.task) ++ w.timers.map (·.task), id < w.tasks.length := by
    intro id hid
    rcases List.mem_append.1 hid with hready | htimers
    · obtain ⟨turn, hturn, rfl⟩ := List.mem_map.1 hready
      exact (hw.straight turn hturn).2
    · obtain ⟨t, ht, rfl⟩ := List.mem_map.1 htimers
      obtain ⟨_, h, hdoing⟩ := hw.timed t ht
      exact hnumbered.lt_of_doing hdoing
  refine ⟨fun turn hturn ↦ ?_, ?_, fun t ht ↦ ?_, fun _ ↦ ?_⟩
  · simp only [World.spawn, List.mem_append, List.mem_singleton, List.length_append] at hturn ⊢
    rcases hturn with hold | rfl
    · obtain ⟨hstraight, hlt⟩ := hw.straight turn hold
      exact ⟨hstraight, Nat.lt_succ_of_lt hlt⟩
    · exact ⟨rfl, Nat.lt_succ_self _⟩
  · have hdistinct : (w.tasks.length ::
        (w.ready.map (·.task) ++ w.timers.map (·.task))).Nodup :=
      List.nodup_cons.2 ⟨fun hmem ↦ Nat.lt_irrefl _ (hnew _ hmem), hw.distinct⟩
    refine (List.Perm.nodup_iff ?_).1 hdistinct
    simp [World.spawn, List.perm_middle.symm]
  · obtain ⟨hdue, h, hdoing⟩ := hw.timed t ht
    refine ⟨hdue, h, ?_⟩
    have hlt := hnumbered.lt_of_doing hdoing
    have hsame := hnumbered.doing_spawn activity t.task
    rw [if_neg hlt.ne] at hsame
    exact hsame.trans hdoing
  · rw [World.spawn, List.map_append]
    exact List.mem_append_left _ hmem

/-- The relay comes to the end of the line, if it is not in it. -/
theorem nodup_woken {line woken : List Turn} {waiting : List Nat}
    (h : (line.map (·.task) ++ waiting).Nodup) (hnot : 0 ∉ waiting)
    (hwoken : woken = [] ∨ woken = [{ task := 0 }] ∧ 0 ∉ line.map (·.task)) :
    ((line ++ woken).map (·.task) ++ waiting).Nodup := by
  rcases hwoken with rfl | ⟨rfl, hnew⟩
  · rwa [List.append_nil]
  · have hdistinct : (0 :: (line.map (·.task) ++ waiting)).Nodup := by
      refine List.nodup_cons.2 ⟨fun hmem ↦ ?_, h⟩
      rcases List.mem_append.1 hmem with hmem | hmem
      · exact hnew hmem
      · exact hnot hmem
    refine (List.Perm.nodup_iff ?_).1 hdistinct
    simp [List.perm_middle.symm]

/-- Whoever has had the turn leaves the line for good. -/
theorem Running.lined_leave (hw : w.Running) (hready : w.ready = { task := id } :: rest)
    (woken : List Turn) (htasks : w'.tasks = (w.become id activity).tasks)
    (hnow : w'.nowMs = w.nowMs) (htimers : w'.timers = w.timers) (hline : w'.ready = rest ++ woken)
    (hwoken : woken = [] ∨ woken = [{ task := 0 }] ∧ 0 ∉ rest.map (·.task))
    (hattentive : w'.doing 0 = some .openingRelay ∨ w'.inbox.waiting ≠ [] →
      0 ∈ (rest ++ woken).map (·.task)) : w'.Lined := by
  obtain ⟨_, htimer⟩ := hw.lined.apart hready
  have hrest : (rest.map (·.task) ++ w.timers.map (·.task)).Nodup := by
    have hdistinct := hw.lined.distinct
    rw [hready] at hdistinct
    exact (List.nodup_cons.1 hdistinct).2
  refine ⟨fun turn hturn ↦ ?_, ?_, fun t ht ↦ ?_, ?_⟩
  · rw [htasks, length_become]
    rw [hline] at hturn
    rcases List.mem_append.1 hturn with hold | hnew
    · exact hw.lined.straight turn (hready ▸ List.mem_cons_of_mem _ hold)
    · rcases hwoken with rfl | ⟨rfl, _⟩
      · cases hnew
      · rw [List.mem_singleton.1 hnew]
        exact ⟨rfl, hw.staffed.pos⟩
  · rw [hline, htimers]
    exact nodup_woken hrest hw.relay_not_timed hwoken
  · rw [htimers] at ht
    rw [hnow]
    obtain ⟨hdue, h, hdoing⟩ := hw.lined.timed t ht
    refine ⟨hdue, h, ?_⟩
    rw [doing, task?, htasks]
    exact (doing_become w id activity t.task).trans ((if_neg (htimer t ht)).trans hdoing)
  · rw [hline]
    exact hattentive

/-- Whoever has had the turn leaves the line to wait. -/
theorem Running.lined_wait (hw : w.Running) (hready : w.ready = { task := id } :: rest) {due : Nat}
    (hid : id ≠ 0) (hdue : w.nowMs < due) :
    ((World.become { w with ready := rest } id (.holding h true)).addTimer ⟨due, id⟩).Lined := by
  obtain ⟨_, htimer⟩ := hw.lined.apart hready
  have hperm := addTimer_perm (World.become { w with ready := rest } id (.holding h true)) ⟨due, id⟩
  refine ⟨fun turn hturn ↦ ?_, ?_, fun t ht ↦ ?_, fun hbusy ↦ ?_⟩
  · have hlength : ((World.become { w with ready := rest } id (.holding h true)).addTimer
        ⟨due, id⟩).tasks.length = w.tasks.length := length_become w id _
    rw [hlength]
    exact hw.lined.straight turn (hready ▸ List.mem_cons_of_mem _ hturn)
  · have hdistinct := hw.lined.distinct
    rw [hready] at hdistinct
    refine (List.Perm.nodup_iff ?_).1 hdistinct
    refine List.Perm.trans ?_ ((hperm.map (·.task)).symm.append_left (rest.map (·.task)))
    exact List.perm_middle.symm
  · have hdoing (other : Nat) := doing_become { w with ready := rest } id (.holding h true) other
    rcases List.mem_cons.1 (hperm.mem_iff.1 ht) with rfl | hold
    · exact ⟨hdue, h, hw.doing_turn hready rfl⟩
    · obtain ⟨hlater, h', hheld⟩ := hw.lined.timed t hold
      exact ⟨hlater, h', ((hdoing t.task).trans (if_neg (htimer t hold))).trans hheld⟩
  · have hmem : 0 ∈ w.ready.map (·.task) := by
      apply hw.lined.attentive
      rcases hbusy with hopening | hwaiting
      · exact .inl (((doing_become _ id _ 0).trans (if_neg hid.symm)).symm.trans hopening)
      · exact .inr hwaiting
    rw [hready, List.map_cons, List.mem_cons] at hmem
    exact hmem.resolve_left hid.symm

theorem boundedMs_pos {ms : Nat} (h : ms ≠ 0) : 0 < Delay.boundedMs ms := by
  unfold Delay.boundedMs Delay.longestMs
  omega

theorem Running.mem_rest (hw : w.Running) (hready : w.ready = { task := id } :: rest) (hid : id ≠ 0)
    (hbusy : w.doing 0 = some .openingRelay ∨ w.inbox.waiting ≠ []) :
    0 ∈ rest.map (·.task) := by
  have hmem := hw.lined.attentive hbusy
  rw [hready, List.map_cons, List.mem_cons] at hmem
  exact hmem.resolve_left hid.symm

theorem Turned.lined (hw : w.Running) (hready : w.ready = { task := id } :: rest)
    (hturn : Turned w rest id w') : w'.Lined := by
  have hstaffed := hw.staffed
  have hhead (hid : id = 0) : 0 ∈ w.ready.map (·.task) := by
    rw [hready, hid]
    exact List.mem_cons_self
  cases hturn with
  | opened _ => exact (hw.lined.queues (hhead rfl)).relay hw.relay_not_timed (hhead rfl)
  | dropped _ _ _ => exact (hw.lined.queues (hhead rfl)).relay hw.relay_not_timed (hhead rfl)
  | @accepted d queues h hrelaying htake hbody =>
    have hnumbered : Numbered { w with queues := queues.acknowledge d } :=
      ⟨hstaffed.ids, hstaffed.free⟩
    have hspawned := (hw.lined.queues (hhead rfl)).spawn hnumbered (.holding h false) (hhead rfl)
    refine hspawned.relay hw.relay_not_timed ?_
    rw [World.spawn, List.map_append]
    exact List.mem_append_left _ (hhead rfl)
  | idle hrelaying hwaiting =>
    refine hw.lined_leave hready [] rfl rfl rfl (List.append_nil _).symm (.inl rfl) ?_
    rintro (hopening | hbusy)
    · rw [doing_become, if_pos rfl] at hopening
      obtain ⟨_, _, heq⟩ := Option.map_eq_some_iff.1 hopening
      cases heq
    · exact absurd hwaiting hbusy
  | held hdoing hwait =>
    have hid := hstaffed.ne_zero hdoing (by simp)
    exact hw.lined_wait hready hid (Nat.lt_add_of_pos_right (boundedMs_pos hwait))
  | @resent id h waited hdoing hnow =>
    have hid := hstaffed.ne_zero hdoing (by simp)
    obtain ⟨woken, hsend, hwoken, hcalled⟩ := hstaffed.sends rest h.queue h.body
    rw [hsend]
    refine hw.lined_leave hready woken rfl rfl rfl rfl hwoken ?_
    have hrest (hbusy : w.doing 0 = some .openingRelay ∨ w.inbox.waiting ≠ []) :
        0 ∈ (rest ++ woken).map (·.task) := by
      rw [List.map_append]
      exact List.mem_append_left _ (hw.mem_rest hready hid hbusy)
    rintro (hopening | hbusy)
    · exact hrest (.inl (((doing_become _ id _ 0).trans (if_neg hid.symm)).symm.trans hopening))
    · -- a message for the relay calls it; any other leaves what waits for it as it was
      by_cases hqueue : h.queue = w.relayQueue
      · rcases hstaffed.relay with ⟨hopening, _⟩ | ⟨hrelaying, _⟩
        · exact hrest (.inl hopening)
        · exact hcalled hqueue hrelaying
      · refine hrest (.inr ?_)
        have hframe : (w.queues.send h.queue h.body).2.queue w.relayQueue = w.inbox :=
          (Queues.Step.send w.queues h.queue h.body).frame fun heq ↦ hqueue (Option.some.inj heq)
        rw [← hframe]
        exact hbusy
  | finished hdoing =>
    have hid := hstaffed.ne_zero hdoing (by simp)
    refine hw.lined_leave hready [] rfl rfl rfl (List.append_nil _).symm (.inl rfl) ?_
    intro hbusy
    rw [doing_become, if_neg hid.symm] at hbusy
    rw [List.append_nil]
    exact hw.mem_rest hready hid hbusy

/-! ### What was read -/

theorem Read.of_queue (hw : w.Read) (hheld : w'.inbox.held = w.inbox.held)
    (hacked : w'.inbox.acked = w.inbox.acked) (hread : w'.inbox.read = w.inbox.read)
    (hsent : w'.inbox.sent + w.inbox.waiting.length = w.inbox.sent + w'.inbox.waiting.length) :
    w'.Read := by
  have hold := hw.sent
  refine ⟨hheld.trans hw.held, ?_, by omega⟩
  rw [hacked, hread]
  exact hw.acked

theorem Read.taken (hw : w.Read) {d : Delivery} {queues : Queues}
    (htake : w.queues.take? w.relayQueue = some (d, queues))
    (hinbox : w'.inbox = (queues.acknowledge d).queue w.relayQueue) : w'.Read := by
  obtain ⟨later, hwaiting, hqueue, _⟩ := Queues.taken_acknowledged htake hw.held
  have hold := hw.sent
  have hlength : w.inbox.waiting.length = later.length + 1 := congrArg List.length hwaiting
  rw [hqueue] at hinbox
  refine ⟨?_, ?_, ?_⟩
  · rw [hinbox]
    exact hw.held
  · rw [hinbox]
    exact congrArg (· + 1) hw.acked
  · rw [hinbox]
    change w.inbox.sent = w.inbox.read + 1 + later.length
    omega

theorem Read.send (hw : w.Read) {queue : String}
    (hinbox : w'.inbox = (w.queues.send queue body).2.queue w.relayQueue) : w'.Read := by
  rcases Queues.send_eq w.queues queue body with ⟨_, heq⟩ | ⟨_, heq⟩
  · rw [heq] at hinbox
    refine hw.of_queue ?_ ?_ ?_ ?_
    all_goals rw [hinbox]; rfl
  · rw [heq, Queues.queue_insert] at hinbox
    split at hinbox
    · next hqueue =>
      rw [← hqueue] at hinbox
      refine hw.of_queue ?_ ?_ ?_ ?_
      · rw [hinbox]
        rfl
      · rw [hinbox]
        rfl
      · rw [hinbox]
        rfl
      · rw [hinbox]
        simp only [List.length_append, List.length_singleton, inbox]
        omega
    · refine hw.of_queue ?_ ?_ ?_ ?_
      all_goals rw [hinbox]; rfl

theorem Turned.read (hw : w.Running) (hturn : Turned w rest id w') : w'.Read := by
  cases hturn with
  | opened hopening =>
    rcases Queues.receive_eq w.queues w.relayQueue with ⟨_, heq⟩ | ⟨_, heq⟩
    · rw [heq]
      exact ⟨hw.read.held, hw.read.acked, hw.read.sent⟩
    · have hinbox : (World.become { w with queues := (w.queues.receive w.relayQueue).2 } 0
          .relaying).inbox = { w.inbox with consumer := .present } := by
        change (w.queues.receive w.relayQueue).2.queue w.relayQueue = _
        rw [heq, Queues.queue_insert, if_pos rfl]
        rfl
      refine hw.read.of_queue ?_ ?_ ?_ ?_
      all_goals rw [hinbox]
  | dropped _ htake _ => exact hw.read.taken htake rfl
  | accepted _ htake _ => exact hw.read.taken htake rfl
  | idle _ _ => exact ⟨hw.read.held, hw.read.acked, hw.read.sent⟩
  | held _ _ => exact ⟨hw.read.held, hw.read.acked, hw.read.sent⟩
  | @resent id h waited hdoing hnow =>
    obtain ⟨woken, hsend, _⟩ := hw.staffed.sends rest h.queue h.body
    rw [hsend]
    exact hw.read.send rfl
  | finished _ => exact ⟨hw.read.held, hw.read.acked, hw.read.sent⟩

theorem Running.turn (hw : w.Running) (hready : w.ready = { task := id } :: rest)
    (hturn : Turned w rest id w') : w'.Running :=
  ⟨hturn.staffed hw, hturn.lined hw hready, hturn.read hw⟩

end World

end PodPlacement
