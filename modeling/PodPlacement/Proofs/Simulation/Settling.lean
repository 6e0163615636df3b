import PodPlacement.Proofs.Simulation.RelayCourse

/-!
A world with a relay comes to rest, whatever waits for the relay. A request that goes back to the
relay's own queue is not held again, so that every turn leaves less to do.
-/

namespace PodPlacement.World

variable {w w' : World} {arrived : List (Nat × Body)} {resent : String → List (Nat × Body)}
  {name : String} {body : Body} {rest : List Turn} {id : Nat} {activity : Activity}

def activityWeight : Option Activity → Nat
  | some .openingRelay => 2
  | some (.holding _ _) => 3
  | _ => 1

theorem activityWeight_pos (activity : Option Activity) : 0 < activityWeight activity := by
  unfold activityWeight
  split <;> omega

def bodyWeight (queue : String) (body : Body) : Nat :=
  if (Hold.ofBody? queue body).isSome then 4 else 1

def lineWeight (w : World) (line : List Turn) : Nat :=
  (line.map fun turn ↦ activityWeight (w.doing turn.task)).sum

def inboxWeight (w : World) : Nat := (w.inbox.waiting.map (bodyWeight w.relayQueue)).sum

def weight (w : World) : Nat := w.lineWeight w.ready + w.inboxWeight

theorem lineWeight_cons (w : World) (id : Nat) (rest : List Turn) :
    w.lineWeight ({ task := id } :: rest) = activityWeight (w.doing id) + w.lineWeight rest := rfl

theorem lineWeight_append (w : World) (line line' : List Turn) :
    w.lineWeight (line ++ line') = w.lineWeight line + w.lineWeight line' := by
  rw [lineWeight, List.map_append, List.sum_append]
  rfl

theorem Running.lineWeight_rest (hw : w.Running) (hready : w.ready = { task := id } :: rest)
    (htasks : w'.tasks = (w.become id activity).tasks) :
    w'.lineWeight rest = w.lineWeight rest := by
  obtain ⟨hothers, _⟩ := hw.lined.apart hready
  refine congrArg List.sum (List.map_congr_left fun turn hturn ↦ ?_)
  rw [doing_of_tasks htasks, doing_become, if_neg (hothers turn hturn)]

theorem Running.inboxWeight_taken {d : Delivery} {queues : Queues} (hw : w.Running)
    (htake : w.queues.take? w.relayQueue = some (d, queues)) :
    w.inboxWeight = bodyWeight w.relayQueue d.body +
      World.inboxWeight { w with queues := queues.acknowledge d } := by
  obtain ⟨later, hwaiting, hinbox, _⟩ := Queues.taken_acknowledged htake hw.read.held
  rw [inboxWeight, inboxWeight, inbox, inbox, hwaiting]
  change _ = _ + (((queues.acknowledge d).queue w.relayQueue).waiting.map _).sum
  rw [hinbox]
  rfl

theorem Running.weight_leave (hw : w.Running) (hready : w.ready = { task := id } :: rest)
    (woken : List Turn) (htasks : w'.tasks = (w.become id activity).tasks)
    (hline : w'.ready = rest ++ woken) :
    w'.weight = w.lineWeight rest + w'.lineWeight woken + w'.inboxWeight := by
  rw [weight, hline, lineWeight_append, hw.lineWeight_rest hready htasks]

/-- Whoever leaves the line takes some weight with them. -/
theorem Running.weight_left (hw : w.Running) (hready : w.ready = { task := id } :: rest)
    (htasks : w'.tasks = (w.become id activity).tasks) (hline : w'.ready = rest)
    (hinbox : w'.inboxWeight = w.inboxWeight) : w'.weight < w.weight := by
  have hpos := activityWeight_pos (w.doing id)
  rw [hw.weight_leave hready [] htasks (hline.trans (List.append_nil rest).symm), hinbox, weight,
    hready, lineWeight_cons]
  change w.lineWeight rest + 0 + w.inboxWeight < _
  omega

theorem Running.weight_stay (hw : w.Running) (hready : w.ready = { task := id } :: rest)
    (htasks : w'.tasks = (w.become id activity).tasks) (hline : w'.ready = w.ready) :
    w'.weight = activityWeight (some activity) + w.lineWeight rest + w'.inboxWeight := by
  rw [weight, hline, hready, lineWeight_cons, hw.lineWeight_rest hready htasks,
    hw.doing_turn hready htasks]

/-- The relay goes on and has less to read, or has begun to read. -/
theorem Running.weight_relay (hw : w.Running) (hready : w.ready = { task := 0 } :: rest)
    (queues : Queues)
    (hless : 1 + World.inboxWeight { w with queues } <
      activityWeight (w.doing 0) + w.inboxWeight) :
    (World.become { w with queues } 0 .relaying).weight < w.weight := by
  have hafter : (World.become { w with queues } 0 .relaying).weight =
      activityWeight (some .relaying) + w.lineWeight rest + World.inboxWeight { w with queues } :=
    hw.weight_stay hready rfl rfl
  have hbefore : w.weight = activityWeight (w.doing 0) + w.lineWeight rest + w.inboxWeight := by
    rw [weight, hready, lineWeight_cons]
  have hrelay : activityWeight (some .relaying) = 1 := rfl
  omega

theorem inboxWeight_send {queue : String} (hnone : Hold.ofBody? w.relayQueue body = none)
    (hqueues : w'.queues = (w.queues.send queue body).2) (hqueue : w'.relayQueue = w.relayQueue) :
    w'.inboxWeight ≤ w.inboxWeight + 1 := by
  have hweight : bodyWeight w.relayQueue body = 1 := by simp [bodyWeight, hnone]
  rcases Queues.send_eq w.queues queue body with ⟨_, heq⟩ | ⟨_, heq⟩
  · rw [inboxWeight, inboxWeight, inbox, hqueues, hqueue, heq]
    exact Nat.le_succ _
  · rw [inboxWeight, inboxWeight, inbox, hqueues, hqueue, heq, Queues.queue_insert]
    split
    · next hsame =>
      rw [List.map_append, List.sum_append, List.map_singleton, List.sum_singleton, hweight, inbox,
        hsame]
    · exact Nat.le_succ _

theorem Running.weight_resent (hw : w.Running) (hready : w.ready = { task := id } :: rest)
    {h : Hold} {waited : Bool} (hdoing : w.doing id = some (.holding h waited))
    (hresult : w' = (World.send { w with ready := rest } h.queue h.body).2.become id
      (.ended (.ok ()))) : w'.weight < 3 + w.lineWeight rest + w.inboxWeight := by
  have hid := hw.staffed.ne_zero hdoing (by simp)
  have hread : h.request.IsRead := hw.staffed.others _ _ hid hdoing
  obtain ⟨woken, hsend, hwoken, _⟩ := hw.staffed.sends rest h.queue h.body
  rw [hsend] at hresult
  have htasks : w'.tasks = (w.become id (.ended (.ok ()))).tasks := by
    rw [hresult]
    rfl
  have hafter : w'.weight = w.lineWeight rest + w'.lineWeight woken + w'.inboxWeight := by
    refine hw.weight_leave hready woken htasks ?_
    rw [hresult]
    rfl
  have hinbox : w'.inboxWeight ≤ w.inboxWeight + 1 := by
    apply inboxWeight_send (Hold.ofBody?_request hread w.relayQueue)
    · rw [hresult]
      rfl
    · rw [hresult]
      rfl
  -- a relay that has yet to open its queue is in line, so that only one that reads is called
  have hcalled : w'.lineWeight woken ≤ 1 := by
    rcases hwoken with rfl | ⟨rfl, hnew⟩
    · exact Nat.zero_le _
    · have hrelay : w'.doing 0 = w.doing 0 := by
        rw [doing_of_tasks htasks, doing_become, if_neg hid.symm]
      have hrelaying : w.doing 0 = some .relaying := by
        rcases hw.staffed.relay with ⟨hopening, _⟩ | ⟨hrelaying, _⟩
        · exact absurd (hw.mem_rest hready hid (.inl hopening)) hnew
        · exact hrelaying
      rw [lineWeight_cons, hrelay, hrelaying]
      exact Nat.le_refl _
  omega

theorem Running.weight_accepted {d : Delivery} {queues : Queues} {h : Hold} (hw : w.Running)
    (htake : w.queues.take? w.relayQueue = some (d, queues))
    (hrelaying : w.doing 0 = some .relaying) (hbody : Hold.ofBody? w.relayQueue d.body = some h)
    (hresult : w' =
      (World.spawn { w with queues := queues.acknowledge d } (.holding h false)).2.become 0
        .relaying) : w'.weight < w.weight := by
  have hdoing (other : Nat) : w'.doing other =
      if other = w.tasks.length then some (.holding h false) else w.doing other := by
    rw [hresult]
    exact hw.staffed.doing_accepted _ h hrelaying other
  have hline : w'.ready = w.ready ++ [{ task := w.tasks.length }] := by
    rw [hresult]
    rfl
  have hothers : w'.lineWeight w.ready = w.lineWeight w.ready := by
    refine congrArg List.sum (List.map_congr_left fun turn hturn ↦ ?_)
    rw [hdoing, if_neg (hw.lined.straight turn hturn).2.ne]
  have hnew : w'.lineWeight [{ task := w.tasks.length }] = 3 := by
    rw [lineWeight_cons, hdoing, if_pos rfl]
    rfl
  have hinbox : w.inboxWeight = bodyWeight w.relayQueue d.body + w'.inboxWeight := by
    rw [hresult]
    exact hw.inboxWeight_taken htake
  have hread : bodyWeight w.relayQueue d.body = 4 := by simp [bodyWeight, hbody]
  rw [weight, weight, hline, lineWeight_append, hothers, hnew, hinbox, hread]
  omega

theorem Turned.weight_lt (hw : w.Running) (hready : w.ready = { task := id } :: rest)
    (hturn : Turned w rest id w') : w'.weight < w.weight := by
  cases hturn with
  | opened hopening =>
    have hinbox : World.inboxWeight { w with queues := (w.queues.receive w.relayQueue).2 } =
        w.inboxWeight := by
      have hwaiting := (Queues.receive_messages w.queues w.relayQueue w.relayQueue).1
      exact congrArg (fun line ↦ (line.map (bodyWeight w.relayQueue)).sum) hwaiting
    apply hw.weight_relay hready
    rw [hinbox, hopening]
    exact Nat.add_lt_add_right Nat.one_lt_two _
  | @dropped d queues hrelaying htake hbody =>
    have hinbox := hw.inboxWeight_taken htake
    have hread : bodyWeight w.relayQueue d.body = 1 := by simp [bodyWeight, hbody]
    apply hw.weight_relay hready
    rw [hrelaying, hinbox, hread]
    exact Nat.add_lt_add_left (Nat.lt_add_of_pos_left Nat.one_pos) _
  | accepted hrelaying htake hbody => exact hw.weight_accepted htake hrelaying hbody rfl
  | idle hrelaying hwaiting => exact hw.weight_left hready rfl rfl rfl
  | held hdoing hwait => exact hw.weight_left hready rfl rfl rfl
  | @resent id h waited hdoing hnow =>
    have hbefore : w.weight = 3 + w.lineWeight rest + w.inboxWeight := by
      rw [weight, hready, lineWeight_cons, hdoing]
      rfl
    rw [hbefore]
    exact hw.weight_resent hready hdoing rfl
  | finished hdoing => exact hw.weight_left hready rfl rfl rfl

/-! ### Coming to rest -/

/-- Taking turns comes to an end, in the same instant. -/
theorem Course.settles (h : Course w arrived resent) {turns : Nat} (hturns : w.weight ≤ turns) :
    ∃ resent', Course (w.drain turns) arrived resent' ∧ (w.drain turns).ready = [] ∧
      (w.drain turns).nowMs = w.nowMs ∧ (∀ name, resent name <+: resent' name) ∧
      ∀ name, ((w.drain turns).queues.queue name).consumer = .gone ↔
        (w.queues.queue name).consumer = .gone := by
  -- by induction on the turns: as long as somebody is in line, one of them takes some weight
  induction turns generalizing w resent with
  | zero =>
    have hready : w.ready = [] := by
      by_contra hready
      obtain ⟨id, rest, hline, hturn⟩ := h.kept.running.exists_turned hready
      exact Nat.not_lt_zero _ ((hturn.weight_lt h.kept.running hline).trans_le hturns)
    exact ⟨resent, h, hready, rfl, fun _ ↦ List.prefix_rfl, fun _ ↦ Iff.rfl⟩
  | succ turns ih =>
    by_cases hready : w.ready = []
    · have hdrain : w.drain (turns + 1) = w := by simp [drain, hready]
      rw [hdrain]
      exact ⟨resent, h, hready, rfl, fun _ ↦ List.prefix_rfl, fun _ ↦ Iff.rfl⟩
    · have hw := h.kept.running
      obtain ⟨id, rest, hline, hturn⟩ := hw.exists_turned hready
      have hdrain : w.drain (turns + 1) = w.step.drain turns := by simp [drain, hready]
      have hless := hturn.weight_lt hw hline
      obtain ⟨resent', hcourse, hrest, hnow, hmore, hgone⟩ := ih (h.turn hready) (by omega)
      rw [hdrain]
      refine ⟨resent', hcourse, hrest, hnow.trans (hturn.nowMs hw), fun name ↦ ?_, fun name ↦ ?_⟩
      · exact (List.prefix_append _ _).trans (hmore name)
      · exact (hgone name).trans (hturn.gone hw name)

/-- Any time can go by. -/
theorem Course.passes (h : Course w arrived resent) (ms : Nat) :
    ∃ later resent', Course later arrived resent' ∧ later.ready = [] ∧
      later.nowMs = w.nowMs + ms ∧ (∀ name, resent name <+: resent' name) ∧
      ∀ name, (later.queues.queue name).consumer = .gone ↔
        (w.queues.queue name).consumer = .gone := by
  induction ms with
  | zero =>
    obtain ⟨resent', hcourse⟩ := h.settles (Nat.le_refl _)
    exact ⟨_, resent', hcourse⟩
  | succ ms ih =>
    obtain ⟨later, resent₁, hcourse, hready, hnow, hmore, hgone⟩ := ih
    have hlined := hcourse.kept.running.lined
    -- no timer ends before the next millisecond
    have htimers : ∀ t ∈ later.timers, later.nowMs + 1 ≤ t.dueMs := fun t ht ↦
      (hlined.timed t ht).1
    have hmoved := moveClock_eq hready hlined.timers_distinct (later.nowMs + 1)
    have hclock : (later.moveClock (later.nowMs + 1)).nowMs = later.nowMs + 1 := by rw [hmoved]
    have hqueues : (later.moveClock (later.nowMs + 1)).queues = later.queues := by rw [hmoved]
    obtain ⟨resent₂, hsettled, hrest, hsame, hstill, hstay⟩ :=
      (hcourse.pass hready (Nat.le_succ _) htimers).settles (Nat.le_refl _)
    refine ⟨_, resent₂, hsettled, hrest, ?_, fun name ↦ (hmore name).trans (hstill name),
      fun name ↦ (hstay name).trans ?_⟩
    · rw [hsame, hclock, hnow, Nat.add_assoc]
    · rw [hqueues]
      exact hgone name

end PodPlacement.World
