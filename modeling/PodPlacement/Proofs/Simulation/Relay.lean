import PodPlacement.Proofs.Service.Backoff
import PodPlacement.Proofs.Simulation.Activities

/-!
The relay among its timers, one turn at a time: what each turn does to the messages that are still
to be sent back.
-/

namespace PodPlacement.World

variable {w w' : World} {id now : Nat} {name : String} {body : Body} {h : Hold}
  {activity next : Activity}

def relayQueue (w : World) : String := w.worker.config.backoffQueue

def inbox (w : World) : Queue := w.queues.queue w.relayQueue

def become (w : World) (id : Nat) (activity : Activity) : World := w.putTask { id, activity }

theorem doing_become (w : World) (id : Nat) (activity : Activity) (other : Nat) :
    (w.become id activity).doing other =
      if other = id then (w.doing other).map fun _ ↦ activity else w.doing other :=
  doing_putTask w { id, activity } other

/-! ### What is to be sent back -/

/-- When and as what an activity sends a message back to the queue of that name, if it goes on at
that time. -/
def activityDue (name : String) (now : Nat) : Option Activity → Option (Nat × Body)
  | some (.holding h waited) =>
    if h.queue = name then
      some (if waited then now else now + Delay.boundedMs h.waitMs, h.body)
    else none
  | _ => none

def due (queue name : String) (m : Nat × Body) : Option (Nat × Body) :=
  match decodeMessage RetryRequest.read? queue m.2 with
  | .ok retry =>
    if retry.queue = name then
      some (m.1 + Delay.boundedMs (retry.request.lastBackoff * 1000), retry.request.encode)
    else none
  | .error _ => none

theorem due_eq (queue name : String) (now : Nat) (body : Body) : due queue name (now, body) =
    activityDue name now ((Hold.ofBody? queue body).map (.holding · false)) := by
  unfold due Hold.ofBody?
  cases decodeMessage RetryRequest.read? queue body <;> rfl

def lineDues (w : World) (name : String) : List (Nat × Body) :=
  w.ready.filterMap fun turn ↦ activityDue name w.nowMs (w.doing turn.task)

def timerDues (w : World) (name : String) : List (Nat × Body) :=
  w.timers.filterMap fun t ↦ activityDue name t.dueMs (w.doing t.task)

def inboxDues (w : World) (name : String) : List (Nat × Body) :=
  w.inbox.waiting.filterMap fun body ↦ due w.relayQueue name (w.nowMs, body)

def dues (w : World) (name : String) : List (Nat × Body) :=
  w.lineDues name ++ w.timerDues name ++ w.inboxDues name

/-! ### Worlds with a relay -/

/-- What others than the relay do for it. -/
def Helps : Activity → Prop
  | .holding h _ => h.request.IsRead
  | .ended _ => True
  | _ => False

/-- The first task is the relay, and the others hold messages for it. -/
structure Staffed (w : World) : Prop extends Numbered w where
  relay : (w.doing 0 = some .openingRelay ∧ w.inbox.consumer = .awaited) ∨
    (w.doing 0 = some .relaying ∧ w.inbox.consumer = .present)
  others : ∀ id activity, id ≠ 0 → w.doing id = some activity → Helps activity

/-- Each task is in line once at most or waits for one timer that is still to come, the relay is in
line when it has something to do. -/
structure Lined (w : World) : Prop where
  straight : ∀ turn ∈ w.ready, turn.detours = 0 ∧ turn.task < w.tasks.length
  distinct : (w.ready.map (·.task) ++ w.timers.map (·.task)).Nodup
  timed : ∀ t ∈ w.timers, w.nowMs < t.dueMs ∧ ∃ h, w.doing t.task = some (.holding h true)
  attentive : w.doing 0 = some .openingRelay ∨ w.inbox.waiting ≠ [] → 0 ∈ w.ready.map (·.task)

structure Read (w : World) : Prop where
  held : w.inbox.held = []
  acked : w.inbox.acked = w.inbox.read
  sent : w.inbox.sent = w.inbox.read + w.inbox.waiting.length

structure Running (w : World) : Prop where
  staffed : w.Staffed
  lined : w.Lined
  read : w.Read

/-! ### The kinds of turns -/

inductive Turned (w : World) (rest : List Turn) : Nat → World → Prop
  | opened : w.doing 0 = some .openingRelay →
      Turned w rest 0 ({ w with queues := (w.queues.receive w.relayQueue).2 }.become 0 .relaying)
  | dropped {d : Delivery} {queues : Queues} : w.doing 0 = some .relaying →
      w.queues.take? w.relayQueue = some (d, queues) →
      Hold.ofBody? w.relayQueue d.body = none →
      Turned w rest 0 ({ w with queues := queues.acknowledge d }.become 0 .relaying)
  | accepted {d : Delivery} {queues : Queues} {h : Hold} : w.doing 0 = some .relaying →
      w.queues.take? w.relayQueue = some (d, queues) →
      Hold.ofBody? w.relayQueue d.body = some h →
      Turned w rest 0
        (({ w with queues := queues.acknowledge d }.spawn (.holding h false)).2.become 0 .relaying)
  | idle : w.doing 0 = some .relaying → w.inbox.waiting = [] →
      Turned w rest 0 ({ w with ready := rest }.become 0 .relaying)
  | held {id : Nat} {h : Hold} : w.doing id = some (.holding h false) → h.waitMs ≠ 0 →
      Turned w rest id (({ w with ready := rest }.become id (.holding h true)).addTimer
        ⟨w.nowMs + Delay.boundedMs h.waitMs, id⟩)
  | resent {id : Nat} {h : Hold} {waited : Bool} : w.doing id = some (.holding h waited) →
      waited = true ∨ h.waitMs = 0 →
      Turned w rest id
        (({ w with ready := rest }.send h.queue h.body).2.become id (.ended (.ok ())))
  | finished {id : Nat} {result : Except ServiceError Unit} : w.doing id = some (.ended result) →
      Turned w rest id ({ w with ready := rest }.become id (.ended result))

theorem Staffed.task (hw : w.Staffed) (hdoing : w.doing id = some activity) :
    w.task? id = some { id, activity } := by
  obtain ⟨t, ht, rfl, rfl⟩ := exists_task_of_doing hdoing
  have hfree := hw.free t (mem_of_task? ht).1
  rw [ht]
  cases t
  cases hfree
  rfl

variable {rest : List Turn}

theorem Staffed.step_eq (hw : w.Staffed) (hready : w.ready = { task := id } :: rest)
    (hdoing : w.doing id = some activity) {move : Move}
    (hact : World.stepActivity { w with ready := rest } { id, activity } = (w', next, move)) :
    w.step = (w'.become id next).conclude { task := id } id move := by
  rw [World.step_eq hready rfl (hw.task hdoing), hact]
  rfl

theorem Staffed.step_opening (hw : w.Staffed) (hready : w.ready = { task := 0 } :: rest)
    (hdoing : w.doing 0 = some .openingRelay) (hawaited : w.inbox.consumer = .awaited) :
    w.step = { w with queues := (w.queues.receive w.relayQueue).2 }.become 0 .relaying := by
  have hact : World.stepActivity { w with ready := rest } { id := 0, activity := .openingRelay } =
      ({ w with ready := rest, queues := (w.queues.receive w.relayQueue).2 },
        .relaying, .keep) := by
    rcases Queues.receive_eq w.queues w.relayQueue with ⟨hnot, _⟩ | ⟨_, heq⟩
    · exact absurd hawaited hnot
    · have heq' : w.queues.receive w.worker.config.backoffQueue = _ := heq
      simp only [World.stepActivity, takeUp, heq, heq']
  rw [hw.step_eq hready hdoing hact, conclude, become, putTask, ← hready]
  rfl

theorem Staffed.step_relaying (hw : w.Staffed) (hready : w.ready = { task := 0 } :: rest)
    (hdoing : w.doing 0 = some .relaying) : Turned w rest 0 w.step := by
  have hact : World.stepActivity { w with ready := rest } { id := 0, activity := .relaying } =
    World.stepRelay { w with ready := rest } false := rfl
  cases htake : w.queues.take? w.relayQueue with
  | none =>
    have htake' : w.queues.take? w.worker.config.backoffQueue = none := htake
    have hwaiting : w.inbox.waiting = [] := by
      cases hwaiting : w.inbox.waiting with
      | nil => rfl
      | cons body later =>
        obtain ⟨d, queues, hsome, _⟩ := Queues.take?_of_waiting hwaiting
        cases htake.symm.trans hsome
    have hrelay : World.stepRelay { w with ready := rest } false =
        ({ w with ready := rest }, .relaying, .wait) := by
      simp only [stepRelay, htake', Bool.false_eq_true, if_false]
    rw [hw.step_eq hready hdoing (hact.trans hrelay)]
    exact .idle hdoing hwaiting
  | some taken =>
    obtain ⟨d, queues⟩ := taken
    have htake' : w.queues.take? w.worker.config.backoffQueue = some (d, queues) := htake
    cases hbody : Hold.ofBody? w.relayQueue d.body with
    | none =>
      have hbody' : Hold.ofBody? w.worker.config.backoffQueue d.body = none := hbody
      have hrelay : World.stepRelay { w with ready := rest } false =
          ({ w with ready := rest, queues := queues.acknowledge d }, .relaying, .keep) := by
        simp only [stepRelay, htake', hbody', Bool.false_eq_true, if_false]
      have hstep := hw.step_eq hready hdoing (hact.trans hrelay)
      rw [conclude, become, putTask, ← hready] at hstep
      rw [hstep]
      exact .dropped hdoing htake hbody
    | some h =>
      have hbody' : Hold.ofBody? w.worker.config.backoffQueue d.body = some h := hbody
      have hrelay : World.stepRelay { w with ready := rest } false =
          ({ (World.spawn { w with ready := rest, queues } (.holding h false)).2 with
            queues := queues.acknowledge d }, .relaying, .keep) := by
        simp only [stepRelay, htake', hbody', Bool.false_eq_true, if_false, World.spawn]
      have hstep := hw.step_eq hready hdoing (hact.trans hrelay)
      rw [conclude, become, putTask] at hstep
      rw [hstep]
      have hturned : Turned w rest 0 _ := .accepted hdoing htake hbody
      rw [World.spawn, become, putTask, hready] at hturned
      exact hturned

theorem Staffed.step_holding (hw : w.Staffed) (hready : w.ready = { task := id } :: rest)
    {waited : Bool} (hdoing : w.doing id = some (.holding h waited)) : Turned w rest id w.step := by
  have hact : World.stepActivity { w with ready := rest } { id, activity := .holding h waited } =
    World.stepHold { w with ready := rest } h waited false := rfl
  by_cases hnow : waited = true ∨ h.waitMs = 0
  · have hhold : World.stepHold { w with ready := rest } h waited false =
        ((World.send { w with ready := rest } h.queue h.body).2, .ended (.ok ()), .wait) := by
      simp [stepHold, hnow]
    rw [hw.step_eq hready hdoing (hact.trans hhold)]
    exact .resent hdoing hnow
  · obtain ⟨hwaited, hwait⟩ := not_or.1 hnow
    have hhold : World.stepHold { w with ready := rest } h waited false =
        ({ w with ready := rest }, .holding h true, .waitFor h.waitMs) := by
      simp [stepHold, hwaited, hwait]
    rw [hw.step_eq hready hdoing (hact.trans hhold)]
    rw [Bool.not_eq_true] at hwaited
    subst hwaited
    exact .held hdoing hwait

theorem Running.turned (hw : w.Running) {turn : Turn} (hready : w.ready = turn :: rest) :
    Turned w rest turn.task w.step := by
  have hmem : turn ∈ w.ready := hready ▸ List.mem_cons_self
  obtain ⟨task, detours⟩ := turn
  obtain ⟨hdetours, hlt⟩ := hw.lined.straight _ hmem
  cases hdetours
  obtain ⟨activity, hdoing⟩ := hw.staffed.exists_doing hlt
  by_cases hid : task = 0
  · subst hid
    rcases hw.staffed.relay with ⟨hopening, hawaited⟩ | ⟨hrelaying, _⟩
    · rw [hw.staffed.step_opening hready hopening hawaited]
      exact .opened hopening
    · exact hw.staffed.step_relaying hready hrelaying
  · have hhelps := hw.staffed.others _ _ hid hdoing
    cases activity with
    | holding h waited => exact hw.staffed.step_holding hready hdoing
    | ended result =>
      have hact : World.stepActivity { w with ready := rest }
          { id := task, activity := .ended result } =
            ({ w with ready := rest }, .ended result, .wait) := rfl
      rw [hw.staffed.step_eq hready hdoing hact]
      exact .finished hdoing
    | _ => exact hhelps.elim

/-! ### Messages -/

theorem Staffed.listener (hw : w.Staffed) {t : Task} {queue : String} (ht : t ∈ w.tasks)
    (hlistens : w.listensOn queue t.activity = true) :
    t.id = 0 ∧ t.activity = .relaying ∧ queue = w.relayQueue := by
  have hdoing := hw.doing_id ht
  by_cases hid : t.id = 0
  · rw [hid] at hdoing
    rcases hw.relay with ⟨hopening, _⟩ | ⟨hrelaying, _⟩
    · rw [Option.some.inj (hdoing.symm.trans hopening)] at hlistens
      cases hlistens
    · have hactivity := Option.some.inj (hdoing.symm.trans hrelaying)
      rw [hactivity] at hlistens
      exact ⟨hid, hactivity, (beq_iff_eq.1 hlistens).symm⟩
  · have hhelps := hw.others _ _ hid hdoing
    cases hactivity : t.activity with
    | holding h waited =>
      rw [hactivity] at hlistens
      cases hlistens
    | ended result =>
      rw [hactivity] at hlistens
      cases hlistens
    | _ =>
      rw [hactivity] at hhelps
      exact hhelps.elim

/-- A message wakes the relay if it is for it, and nobody else. -/
theorem Staffed.send_eq (hw : w.Staffed) (queue : String) (body : Body) : ∃ woken,
    (w.send queue body).2 = { w with
      queues := (w.queues.send queue body).2, ready := w.ready ++ woken } ∧
    (woken = [] ∨ woken = [{ task := 0 }] ∧ 0 ∉ w.ready.map (·.task)) ∧
    (queue = w.relayQueue → w.doing 0 = some .relaying →
      0 ∈ (w.ready ++ woken).map (·.task)) := by
  by_cases hgone : (w.queues.queue queue).consumer = .gone
  · refine ⟨[], ?_, .inl rfl, ?_⟩
    · have hsend := (Queues.send_eq w.queues queue body).resolve_right fun h ↦ h.1 hgone
      rw [send_refused hgone, hsend.2, List.append_nil]
    · rintro rfl hrelaying
      rcases hw.relay with ⟨_, hawaited⟩ | ⟨_, hpresent⟩
      · cases hawaited.symm.trans hgone
      · cases hpresent.symm.trans hgone
  · rw [send_accepted hgone]
    cases hlisteners : w.tasks.filter fun t ↦ w.listensOn queue t.activity with
    | nil =>
      refine ⟨[], by simp, .inl rfl, ?_⟩
      rintro rfl hrelaying
      obtain ⟨t, ht, _, hactivity⟩ := exists_task_of_doing hrelaying
      have hlistens : w.listensOn w.relayQueue t.activity = true := by
        rw [hactivity]
        exact beq_self_eq_true _
      have hmem : t ∈ w.tasks.filter fun t ↦ w.listensOn w.relayQueue t.activity :=
        List.mem_filter.2 ⟨(mem_of_task? ht).1, hlistens⟩
      rw [hlisteners] at hmem
      cases hmem
    | cons t more =>
      -- whoever listens is the relay, so that the second one to be called is already awake
      have hall : ∀ u ∈ t :: more, u.id = 0 := by
        intro u hu
        rw [← hlisteners] at hu
        exact (hw.listener (List.mem_filter.1 hu).1 (List.mem_filter.1 hu).2).1
      by_cases hready : 0 ∈ w.ready.map (·.task)
      · refine ⟨[], ?_, .inl rfl, fun _ _ ↦ by simpa using hready⟩
        rw [foldl_wake_of_mem, List.append_nil]
        intro u hu
        rw [hall u hu]
        exact hready
      · refine ⟨[{ task := 0 }], ?_, .inr ⟨rfl, hready⟩, fun _ _ ↦ by simp⟩
        have hwoken : World.wake { w with queues := (w.queues.send queue body).2 } t.id =
            { w with
              queues := (w.queues.send queue body).2, ready := w.ready ++ [{ task := 0 }] } := by
          rw [hall t List.mem_cons_self]
          exact wake_of_not_mem hready
        rw [List.foldl_cons, hwoken, foldl_wake_of_mem]
        intro u hu
        rw [hall u (List.mem_cons_of_mem _ hu)]
        simp

end PodPlacement.World
