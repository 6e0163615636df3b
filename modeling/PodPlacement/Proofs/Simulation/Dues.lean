import Mathlib.Data.List.DropRight
import PodPlacement.Proofs.Simulation.Turned

/-!
Whatever happens in a world with a relay, each message that is to be sent back is sent back, or is
still to be sent back, or is refused.
-/

namespace PodPlacement

def Queues.gained (qs qs' : Queues) (name : String) : List Body :=
  (qs'.queue name).waiting.rtake (qs'.sent name - qs.sent name)

theorem Queues.gained_of_sent {qs qs' : Queues} {name : String}
    (h : qs'.sent name = qs.sent name) : gained qs qs' name = [] := by
  simp [gained, h, List.rtake]

theorem Queues.sent_of_same {qs qs' : Queues} {name : String}
    (h : qs'.sent name = qs.sent name) :
    qs'.sent name = qs.sent name + (gained qs qs' name).length := by
  rw [gained_of_sent h, h]
  rfl

theorem Queues.sent_send (qs : Queues) (queue : String) (body : Body) (name : String) :
    (qs.send queue body).2.sent name =
      qs.sent name + (gained qs (qs.send queue body).2 name).length := by
  rcases Queues.send_eq qs queue body with ⟨_, heq⟩ | ⟨_, heq⟩
  · rw [heq]
    exact sent_of_same rfl
  · rw [heq, gained, Queues.sent, Queues.sent, Queues.queue_insert]
    by_cases hname : name = queue
    · simp [hname, List.rtake]
    · simp [hname, List.rtake]

/-- A message that is sent reaches its queue or is refused. -/
theorem Queues.gained_or_refused (qs : Queues) (queue : String) (body : Body) (name : String)
    (now : Nat) :
    ∃ refused, (if queue = name then [(now, body)] else []) =
      (gained qs (qs.send queue body).2 name).map (now, ·) ++ refused ∧
      ((qs.queue name).consumer ≠ .gone → refused = []) := by
  rcases Queues.send_eq qs queue body with ⟨hgone, heq⟩ | ⟨_, heq⟩
  · refine ⟨if queue = name then [(now, body)] else [], ?_, fun hpresent ↦ if_neg ?_⟩
    · rw [heq, gained_of_sent rfl]
      rfl
    · rintro rfl
      exact hpresent hgone
  · refine ⟨[], ?_, fun _ ↦ rfl⟩
    rw [heq, gained, Queues.sent, Queues.sent, Queues.queue_insert, List.append_nil]
    by_cases hname : queue = name
    · simp [hname, List.rtake]
    · simp [hname, Ne.symm hname, List.rtake]

theorem Queues.receive_messages (qs : Queues) (queue name : String) :
    ((qs.receive queue).2.queue name).waiting = (qs.queue name).waiting ∧
      (qs.receive queue).2.sent name = qs.sent name := by
  rcases Queues.receive_eq qs queue with ⟨_, heq⟩ | ⟨_, heq⟩
  · rw [heq]
    exact ⟨rfl, rfl⟩
  · rw [heq, Queues.sent, Queues.queue_insert]
    split
    · next hname =>
      rw [hname]
      exact ⟨rfl, rfl⟩
    · exact ⟨rfl, rfl⟩

theorem Queues.taken_sent {qs qs' : Queues} {queue : String} {d : Delivery}
    (h : qs.take? queue = some (d, qs')) (hheld : (qs.queue queue).held = []) (name : String) :
    (qs'.acknowledge d).sent name = qs.sent name := by
  obtain ⟨_, _, hqueue, hothers⟩ := Queues.taken_acknowledged h hheld
  rw [Queues.sent, Queues.sent]
  by_cases hname : name = queue
  · rw [hname, hqueue]
  · rw [hothers name hname]

namespace World

variable {w w' : World} {id : Nat} {name : String} {body : Body} {h : Hold} {waited : Bool}
  {activity : Activity} {rest : List Turn}

/-! ### One part at a time -/

theorem lineDues_cons (hready : w.ready = { task := id } :: rest) (name : String) :
    w.lineDues name = (activityDue name w.nowMs (w.doing id)).toList ++
      rest.filterMap fun turn ↦ activityDue name w.nowMs (w.doing turn.task) := by
  rw [lineDues, hready, List.filterMap_cons]
  cases activityDue name w.nowMs (w.doing id) <;> rfl

/-- Whoever leaves the line takes with them what they have to send. -/
theorem Running.lineDues_leave (hw : w.Running) (hready : w.ready = { task := id } :: rest)
    (woken : List Turn) (htasks : w'.tasks = (w.become id activity).tasks)
    (hnow : w'.nowMs = w.nowMs) (hline : w'.ready = rest ++ woken)
    (hwoken : ∀ turn ∈ woken, activityDue name w.nowMs (w'.doing turn.task) = none) :
    (w.lineDues name ++ []).Perm
      ((activityDue name w.nowMs (w.doing id)).toList ++ w'.lineDues name) := by
  obtain ⟨hrest, _⟩ := hw.lined.apart hready
  have hothers : rest.filterMap (fun turn ↦ activityDue name w.nowMs (w'.doing turn.task)) =
      rest.filterMap fun turn ↦ activityDue name w.nowMs (w.doing turn.task) := by
    refine List.filterMap_congr fun turn hturn ↦ ?_
    rw [doing_of_tasks htasks, doing_become, if_neg (hrest turn hturn)]
  rw [lineDues_cons hready, lineDues, hline, hnow, List.filterMap_append,
    List.filterMap_eq_nil_iff.2 hwoken, List.append_nil, List.append_nil, hothers]

theorem Staffed.relay_idle (hw : w.Staffed) (name : String) (now : Nat) :
    activityDue name now (w.doing 0) = none := by
  rcases hw.relay with ⟨hrelay, _⟩ | ⟨hrelay, _⟩
  all_goals
    rw [hrelay]
    rfl

/-- As long as the relay has the turn nobody has more or less to send. -/
theorem Staffed.lineDues_relay (hw : w.Staffed)
    (htasks : w'.tasks = (w.become 0 .relaying).tasks) (hnow : w'.nowMs = w.nowMs)
    (hline : w'.ready = w.ready) :
    (w.lineDues name ++ []).Perm ([] ++ w'.lineDues name) := by
  rw [List.append_nil, List.nil_append, lineDues, lineDues, hline, hnow]
  refine .of_eq (List.filterMap_congr fun turn _ ↦ ?_)
  rw [doing_of_tasks htasks, doing_become]
  split
  · next hid =>
    rw [hid, hw.relay_idle]
    cases w.doing 0 <;> rfl
  · rfl

/-- The relay has given a message to somebody new. -/
theorem Staffed.doing_accepted (hw : w.Staffed) (queues : Queues) (h : Hold)
    (hrelaying : w.doing 0 = some .relaying) (other : Nat) :
    World.doing ((World.spawn { w with queues } (.holding h false)).2.become 0 .relaying) other =
      if other = w.tasks.length then some (.holding h false) else w.doing other := by
  have hnumbered : Numbered { w with queues } := ⟨hw.ids, hw.free⟩
  rw [doing_become, hnumbered.doing_spawn]
  change (if other = 0 then Option.map _ (if other = w.tasks.length then _ else w.doing other)
    else if other = w.tasks.length then _ else w.doing other) = _
  by_cases hother : other = 0
  · rw [if_pos hother, hother, if_neg hw.pos.ne, hrelaying]
    rfl
  · rw [if_neg hother]

theorem Running.timerDues_same (hw : w.Running) (hready : w.ready = { task := id } :: rest)
    (htasks : w'.tasks = (w.become id activity).tasks) (htimers : w'.timers = w.timers) :
    (w.timerDues name ++ []).Perm (w'.timerDues name) := by
  obtain ⟨_, hothers⟩ := hw.lined.apart hready
  rw [List.append_nil, timerDues, timerDues, htimers]
  refine .of_eq (List.filterMap_congr fun t ht ↦ ?_)
  rw [doing_of_tasks htasks, doing_become, if_neg (hothers t ht)]

theorem Running.lineDues_spawn (hw : w.Running) {new : Activity}
    (hdoing : ∀ id, w'.doing id = if id = w.tasks.length then some new else w.doing id)
    (hnow : w'.nowMs = w.nowMs) (hline : w'.ready = w.ready ++ [{ task := w.tasks.length }]) :
    (w.lineDues name ++ (activityDue name w.nowMs (some new)).toList).Perm
      ([] ++ w'.lineDues name) := by
  have hothers : w.ready.filterMap (fun turn ↦ activityDue name w.nowMs (w'.doing turn.task)) =
      w.lineDues name := by
    refine List.filterMap_congr fun turn hturn ↦ ?_
    rw [hdoing, if_neg (hw.lined.straight turn hturn).2.ne]
  have hall : w'.lineDues name =
      w.lineDues name ++ (activityDue name w.nowMs (some new)).toList := by
    rw [← hothers, lineDues, hline, hnow, List.filterMap_append, List.filterMap_cons, hdoing,
      if_pos rfl]
    cases activityDue name w.nowMs (some new) <;> rfl
  rw [hall]
  exact .refl _

theorem Running.timerDues_spawn (hw : w.Running) {new : Activity}
    (hdoing : ∀ id, w'.doing id = if id = w.tasks.length then some new else w.doing id)
    (htimers : w'.timers = w.timers) : (w.timerDues name ++ []).Perm (w'.timerDues name) := by
  rw [List.append_nil, timerDues, timerDues, htimers]
  refine .of_eq (List.filterMap_congr fun t ht ↦ ?_)
  obtain ⟨_, h, hheld⟩ := hw.lined.timed t ht
  rw [hdoing, if_neg (hw.staffed.lt_of_doing hheld).ne]

theorem Running.timerDues_wait (hw : w.Running) (hready : w.ready = { task := id } :: rest)
    (timer : Timer) (htimer : timer.task = id) (htasks : w'.tasks = (w.become id activity).tasks)
    (htimers : w'.timers.Perm (timer :: w.timers)) :
    (w.timerDues name ++ (activityDue name timer.dueMs (some activity)).toList).Perm
      (w'.timerDues name) := by
  obtain ⟨_, hothers⟩ := hw.lined.apart hready
  have hold : w.timers.filterMap (fun t ↦ activityDue name t.dueMs (w'.doing t.task)) =
      w.timerDues name := by
    refine List.filterMap_congr fun t ht ↦ ?_
    rw [doing_of_tasks htasks, doing_become, if_neg (hothers t ht)]
  have hnew := hw.doing_turn hready htasks
  refine List.Perm.trans ?_ (htimers.filterMap _).symm
  rw [List.filterMap_cons, hold, htimer, hnew]
  cases activityDue name timer.dueMs (some activity) with
  | none => simp
  | some m => exact List.perm_append_comm

theorem inboxDues_same (hqueue : w'.relayQueue = w.relayQueue) (hnow : w'.nowMs = w.nowMs)
    (hwaiting : w'.inbox.waiting = w.inbox.waiting) :
    (w.inboxDues name).Perm ([] ++ w'.inboxDues name) := by
  rw [List.nil_append, inboxDues, inboxDues, hqueue, hnow, hwaiting]

theorem inboxDues_taken (hqueue : w'.relayQueue = w.relayQueue) (hnow : w'.nowMs = w.nowMs)
    (hwaiting : w.inbox.waiting = body :: w'.inbox.waiting) :
    (w.inboxDues name).Perm
      ((activityDue name w.nowMs
        ((Hold.ofBody? w.relayQueue body).map (.holding · false))).toList ++
          w'.inboxDues name) := by
  rw [inboxDues, inboxDues, hqueue, hnow, hwaiting, List.filterMap_cons, due_eq]
  cases activityDue name w.nowMs ((Hold.ofBody? w.relayQueue body).map (.holding · false)) <;> rfl

/-- A message that is sent adds nothing to what the relay has to send back. -/
theorem inboxDues_send {queue : String}
    (hnone : ∀ name, due w.relayQueue name (w.nowMs, body) = none)
    (hqueue : w'.relayQueue = w.relayQueue) (hnow : w'.nowMs = w.nowMs)
    (hqueues : w'.queues = (w.queues.send queue body).2) :
    (w.inboxDues name).Perm ([] ++ w'.inboxDues name) := by
  have hwaiting : w'.inbox.waiting = w.inbox.waiting ∨
      w'.inbox.waiting = w.inbox.waiting ++ [body] := by
    rw [inbox, hqueues, hqueue]
    rcases Queues.send_eq w.queues queue body with ⟨_, heq⟩ | ⟨_, heq⟩
    · rw [heq]
      exact .inl rfl
    · rw [heq, Queues.queue_insert]
      split
      · next hsame => exact .inr (by rw [inbox, hsame])
      · exact .inl rfl
  rcases hwaiting with hsame | hmore
  · exact inboxDues_same hqueue hnow hsame
  · rw [List.nil_append, inboxDues, inboxDues, hqueue, hnow, hmore, List.filterMap_append,
      List.filterMap_cons, hnone]
    simp

theorem dues_balance (leave join add taken : List (Nat × Body))
    {sent refused : List (Nat × Body)}
    (hline : (w.lineDues name ++ join).Perm (leave ++ w'.lineDues name))
    (htimers : (w.timerDues name ++ add).Perm (w'.timerDues name))
    (hinbox : (w.inboxDues name).Perm (taken ++ w'.inboxDues name))
    (hmoved : (leave ++ taken).Perm (join ++ add ++ sent ++ refused)) :
    (w.dues name).Perm (sent ++ w'.dues name ++ refused) := by
  rw [List.perm_iff_count] at *
  intro m
  have hline := hline m
  have htimers := htimers m
  have hinbox := hinbox m
  have hmoved := hmoved m
  simp only [dues, List.count_append] at *
  omega

/-- Nothing was sent. -/
theorem moved_quietly {leave join add taken : List (Nat × Body)}
    (hsent : w'.queues.sent name = w.queues.sent name)
    (hmoved : (leave ++ taken).Perm (join ++ add)) :
    (leave ++ taken).Perm
      (join ++ add ++ (Queues.gained w.queues w'.queues name).map (w.nowMs, ·) ++ []) := by
  rwa [Queues.gained_of_sent hsent, List.map_nil, List.append_nil, List.append_nil]

theorem moved_sending {leave refused : List (Nat × Body)}
    (hsent : leave = (Queues.gained w.queues w'.queues name).map (w.nowMs, ·) ++ refused) :
    (leave ++ []).Perm
      ([] ++ [] ++ (Queues.gained w.queues w'.queues name).map (w.nowMs, ·) ++ refused) := by
  rw [List.append_nil]
  exact .of_eq hsent

/-! ### One turn -/

theorem activityDue_now (hnow : waited = true ∨ h.waitMs = 0) (name : String) (now : Nat) :
    (activityDue name now (some (.holding h waited))).toList =
      if h.queue = name then [(now, h.body)] else [] := by
  rw [activityDue]
  split
  · rcases hnow with rfl | hwait
    · rfl
    · cases waited <;> simp [hwait, Delay.boundedMs]
  · rfl

theorem Running.dues_resent (hw : w.Running) (hready : w.ready = { task := id } :: rest)
    (hdoing : w.doing id = some (.holding h waited)) (hnow : waited = true ∨ h.waitMs = 0)
    (hresult : w' = (World.send { w with ready := rest } h.queue h.body).2.become id
      (.ended (.ok ()))) (name : String) : ∃ refused,
    (w.dues name).Perm
      ((Queues.gained w.queues w'.queues name).map (w.nowMs, ·) ++ w'.dues name ++ refused) ∧
    ((w.queues.queue name).consumer ≠ .gone → refused = []) := by
  have hstaffed := hw.staffed
  have hid := hstaffed.ne_zero hdoing (by simp)
  have hread : h.request.IsRead := hstaffed.others _ _ hid hdoing
  obtain ⟨woken, hsend, hwoken, _⟩ := hstaffed.sends rest h.queue h.body
  obtain ⟨refused, hsent, hrefused⟩ :=
    Queues.gained_or_refused w.queues h.queue h.body name w.nowMs
  rw [hsend] at hresult
  have hqueues : w'.queues = (w.queues.send h.queue h.body).2 := by
    rw [hresult]
    rfl
  have htasks : w'.tasks = (w.become id (.ended (.ok ()))).tasks := by
    rw [hresult]
    rfl
  have hnone (name : String) : due w.relayQueue name (w.nowMs, h.body) = none := by
    rw [due_eq, Hold.body, Hold.ofBody?_request hread]
    rfl
  have hidle : ∀ turn ∈ woken, activityDue name w.nowMs (w'.doing turn.task) = none := by
    intro turn hturn
    rcases hwoken with rfl | ⟨rfl, _⟩
    · cases hturn
    · rw [List.mem_singleton.1 hturn, doing_of_tasks htasks, doing_become, if_neg hid.symm]
      exact hstaffed.relay_idle name w.nowMs
  refine ⟨refused, dues_balance (activityDue name w.nowMs (w.doing id)).toList [] [] [] ?_ ?_ ?_ ?_,
    hrefused⟩
  · refine hw.lineDues_leave hready woken htasks ?_ ?_ hidle
    · rw [hresult]
      rfl
    · rw [hresult]
      rfl
  · refine hw.timerDues_same hready htasks ?_
    rw [hresult]
    rfl
  · refine inboxDues_send hnone ?_ ?_ hqueues
    · rw [hresult]
      rfl
    · rw [hresult]
      rfl
  · apply moved_sending
    rw [hqueues, hdoing, activityDue_now hnow, hsent]

theorem Turned.dues (hw : w.Running) (hready : w.ready = { task := id } :: rest)
    (hturn : Turned w rest id w') (name : String) : ∃ refused,
    (w.dues name).Perm
      ((Queues.gained w.queues w'.queues name).map (w.nowMs, ·) ++ w'.dues name ++ refused) ∧
    ((w.queues.queue name).consumer ≠ .gone → refused = []) := by
  have hstaffed := hw.staffed
  cases hturn with
  | opened hopening =>
    refine ⟨[], dues_balance [] [] [] [] ?_ ?_ ?_ ?_, fun _ ↦ rfl⟩
    · exact hstaffed.lineDues_relay rfl rfl rfl
    · exact hw.timerDues_same hready rfl rfl
    · exact inboxDues_same rfl rfl (Queues.receive_messages w.queues w.relayQueue w.relayQueue).1
    · exact moved_quietly (Queues.receive_messages w.queues w.relayQueue name).2 (.refl _)
  | @dropped d queues hrelaying htake hbody =>
    obtain ⟨later, hwaiting, hinbox, _⟩ := Queues.taken_acknowledged htake hw.read.held
    have hnext : w.inbox.waiting =
        d.body :: ((queues.acknowledge d).queue w.relayQueue).waiting := by
      rw [hinbox]
      exact hwaiting
    refine ⟨[], dues_balance [] [] [] (activityDue name w.nowMs
      ((Hold.ofBody? w.relayQueue d.body).map (.holding · false))).toList ?_ ?_ ?_ ?_, fun _ ↦ rfl⟩
    · exact hstaffed.lineDues_relay rfl rfl rfl
    · exact hw.timerDues_same hready rfl rfl
    · exact inboxDues_taken rfl rfl hnext
    · rw [hbody]
      exact moved_quietly (Queues.taken_sent htake hw.read.held name) (.refl _)
  | @accepted d queues h hrelaying htake hbody =>
    obtain ⟨later, hwaiting, hinbox, _⟩ := Queues.taken_acknowledged htake hw.read.held
    have hnext : w.inbox.waiting =
        d.body :: ((queues.acknowledge d).queue w.relayQueue).waiting := by
      rw [hinbox]
      exact hwaiting
    have hdoing := hstaffed.doing_accepted (queues.acknowledge d) h hrelaying
    refine ⟨[], dues_balance [] (activityDue name w.nowMs (some (.holding h false))).toList []
      (activityDue name w.nowMs
        ((Hold.ofBody? w.relayQueue d.body).map (.holding · false))).toList ?_ ?_ ?_ ?_,
      fun _ ↦ rfl⟩
    · exact hw.lineDues_spawn hdoing rfl rfl
    · exact hw.timerDues_spawn hdoing rfl
    · exact inboxDues_taken rfl rfl hnext
    · rw [hbody]
      refine moved_quietly (Queues.taken_sent htake hw.read.held name) ?_
      rw [List.nil_append, List.append_nil]
      exact .refl _
  | idle hrelaying hwaiting =>
    refine ⟨[], dues_balance (activityDue name w.nowMs (w.doing 0)).toList [] [] [] ?_ ?_ ?_ ?_,
      fun _ ↦ rfl⟩
    · exact hw.lineDues_leave hready [] rfl rfl (List.append_nil _).symm nofun
    · exact hw.timerDues_same hready rfl rfl
    · exact inboxDues_same rfl rfl rfl
    · rw [hrelaying]
      exact moved_quietly rfl (.refl _)
  | @held id h hdoing hwait =>
    refine ⟨[], dues_balance (activityDue name w.nowMs (w.doing id)).toList []
      (activityDue name (w.nowMs + Delay.boundedMs h.waitMs) (some (.holding h true))).toList []
      ?_ ?_ ?_ ?_, fun _ ↦ rfl⟩
    · exact hw.lineDues_leave hready [] rfl rfl (List.append_nil _).symm nofun
    · exact hw.timerDues_wait hready ⟨_, id⟩ rfl rfl (addTimer_perm _ _)
    · exact inboxDues_same rfl rfl rfl
    · rw [hdoing]
      refine moved_quietly rfl ?_
      rw [List.append_nil, List.nil_append]
      exact .refl _
  | resent hdoing hnow => exact hw.dues_resent hready hdoing hnow rfl name
  | finished hdoing =>
    refine ⟨[], dues_balance (activityDue name w.nowMs (w.doing id)).toList [] [] [] ?_ ?_ ?_ ?_,
      fun _ ↦ rfl⟩
    · exact hw.lineDues_leave hready [] rfl rfl (List.append_nil _).symm nofun
    · exact hw.timerDues_same hready rfl rfl
    · exact inboxDues_same rfl rfl rfl
    · rw [hdoing]
      exact moved_quietly rfl (.refl _)

end World

end PodPlacement
