import Mathlib.Logic.Relation
import PodPlacement.Proofs.Service.Circuit

/-!
No request is lost and none is there twice. Whatever the orchestrator and the scheduler answer, each
request that was published is in one place, or it has come to one end.
-/

namespace PodPlacement.Circuit

variable {w : Worker} {c c' : Circuit} {i : Nat} {d : Delivery} {r : ScheduleRequest}
  {published : List Body} {phase after : RequestPhase} {deed : Deed}

/-! ### Sound circuits stay sound -/

namespace Sound

variable (hne : w.config.receiveQueue ≠ w.config.backoffQueue) (h : Sound w c)

include hne h

theorem publish {body : Body} {queues : Queues}
    (hsend : c.queues.send w.config.receiveQueue body = (.ok (), queues)) :
    Sound w { c with
      queues, published := c.published ++ [body],
      arrivals := c.arrivals ++ [c.published.length] } := by
  have harrived : Arrived w (c.published ++ [body]) c.published.length body :=
    .inl List.getElem?_concat_length
  obtain ⟨queues', hsend', hflow⟩ := (h.flow.publish [body]).send_arrival hne harrived
  cases hsend.symm.trans hsend'
  refine ⟨hflow, ?_, fun i d phase hcurrent ↦ ?_, fun e he ↦ ?_, fun e he ↦ ?_⟩
  · -- The number of the new request is the first one that is not in use.
    rw [List.length_append, List.length_singleton, List.range_succ]
    refine .trans (List.perm_iff_count.2 fun j ↦ ?_) (h.numbers.append_right _)
    rw [List.count_append, count_numbers, count_numbers, List.count_append]
    simp only [inProcess]
    omega
  · obtain ⟨harrived, hphase⟩ := h.current i d phase hcurrent
    exact ⟨harrived.publish _, hphase.imp_right fun hpending ↦ hpending.publish _⟩
  · exact ⟨(h.jobs e he).1, (h.jobs e he).2.publish _⟩
  · exact ⟨(h.holds e he).1, (h.holds e he).2.publish _⟩

theorem take {queues : Queues} {later : List Nat} (hidle : c.current = none)
    (htake : c.queues.take? w.config.receiveQueue = some (d, queues))
    (hfirst : c.arrivals = i :: later) :
    Sound w { c with queues, current := some (i, d, w.begin d.body), arrivals := later } := by
  obtain ⟨harrived, hflow⟩ := h.flow.take_arrival hne htake hfirst
  have hpending := Pending.begin harrived
  refine ⟨hflow, numbers_perm h.numbers rfl fun j ↦ ?_, fun j d' phase hcurrent ↦ ?_, h.jobs,
    h.holds⟩
  · rw [count_numbers, count_numbers c, inProcess_pending rfl hpending.isPassedOn,
      inProcess_idle hidle, hfirst]
    simp only [List.map_cons, List.map_nil, List.count_cons, List.count_nil]
    omega
  · cases hcurrent
    exact ⟨harrived, .inr hpending⟩

theorem work {now : Timestamp} (hcurrent : c.current = some (i, d, phase))
    (hdoes : (w.next now phase).Does deed after) (hpossible : c.Possible deed) :
    Sound w (c.advance w i d after deed) := by
  obtain ⟨harrived, hphase⟩ := h.current i d phase hcurrent
  have hpending : Pending w c.published i phase := by
    rcases hphase with hpassed | hpending
    · rw [isPassedOn_of_does hdoes] at hpassed
      cases hpassed
    · exact hpending
  have hbefore := inProcess_pending hcurrent hpending.isPassedOn
  have hsends body : (c.queues.send w.config.backoffQueue body).1 = .ok () := by
    obtain ⟨queues', hsend, _⟩ := Queues.send_present h.flow.relaying body
    rw [hsend]
  rcases hpending.does_cases hdoes hpossible hsends with
    ⟨hsent, hlaunched, hafter⟩ | ⟨r, hr, hlaunched, hpassed, hsent⟩ |
    ⟨job, hjob, hlaunched, hpassed, hsent⟩
  · rw [advance_unlaunched hlaunched, send_none hsent]
    refine ⟨h.flow, numbers_perm h.numbers rfl fun j ↦ ?_, fun j d' phase' hcurrent' ↦ ?_, h.jobs,
      h.holds⟩
    · rw [count_numbers, count_numbers c, inProcess_pending rfl hafter.isPassedOn, hbefore]
      rfl
    · cases hcurrent'
      exact ⟨harrived, .inr hafter⟩
  · obtain ⟨queues', hsend, hflow⟩ := h.flow.send_retry hne (hpending.request r hr)
    rw [advance_unlaunched hlaunched, send_some hsent, hsend]
    refine ⟨hflow, numbers_perm h.numbers rfl fun j ↦ ?_, fun j d' phase' hcurrent' ↦ ?_, h.jobs,
      h.holds⟩
    · rw [count_numbers, count_numbers c, inProcess_passedOn rfl hpassed, hbefore]
      simp only [List.map_cons, List.map_nil, List.count_append, List.count_cons, List.count_nil]
      omega
    · cases hcurrent'
      exact ⟨harrived, .inl hpassed⟩
  · unfold advance
    rw [send_none hsent, hlaunched]
    refine ⟨h.flow, numbers_perm h.numbers rfl fun j ↦ ?_, fun j d' phase' hcurrent' ↦ ?_,
      fun e he ↦ ?_, h.holds⟩
    · rw [count_numbers, count_numbers c, inProcess_passedOn rfl hpassed, hbefore]
      simp only [Option.toList_some, List.map_append, List.map_cons, List.map_nil,
        List.count_append, List.count_cons, List.count_nil]
      omega
    · cases hcurrent'
      exact ⟨harrived, .inl hpassed⟩
    · rcases List.mem_append.1 he with he | he
      · exact h.jobs e he
      · cases List.mem_singleton.1 he
        exact ⟨RunningJob.honest_start w job, hpending.request job.request hjob⟩

omit hne in
theorem settle {result : Except ServiceError Outcome}
    (hcurrent : c.current = some (i, d, .finished result)) : Sound w (c.settle i d result) := by
  obtain ⟨-, hphase⟩ := h.current i d _ hcurrent
  have hflow := h.flow.of_sameMessages (Queues.acknowledge_sameMessages c.queues d)
  rcases hphase with hpassed | hpending
  -- A request that was passed on is counted where it is now, any other one ends here.
  · have hbefore := inProcess_passedOn hcurrent hpassed
    obtain ⟨outcome, rfl, hending⟩ :
        ∃ outcome : Outcome, result = .ok outcome ∧ outcome.ending? = none := by
      cases result with
      | error cause => cases hpassed
      | ok outcome =>
        refine ⟨outcome, rfl, ?_⟩
        cases outcome with
        | preempting _ _ | retrying _ => rfl
        | _ => cases hpassed
    refine ⟨hflow, numbers_perm h.numbers rfl fun j ↦ ?_, fun _ _ _ ↦ nofun, h.jobs, h.holds⟩
    rw [count_numbers, count_numbers c, inProcess_idle rfl, hbefore]
    simp only [Circuit.settle, hending, Option.toList_none, List.map_nil, List.append_nil]
  · have hbefore := inProcess_pending hcurrent hpending.isPassedOn
    obtain ⟨outcome, ending, rfl, hending⟩ := hpending.ending result rfl
    refine ⟨hflow, numbers_perm h.numbers rfl fun j ↦ ?_, fun _ _ _ ↦ nofun, h.jobs, h.holds⟩
    rw [count_numbers, count_numbers c, inProcess_idle rfl, hbefore]
    simp only [Circuit.settle, hending, Option.toList_some, List.map_append, List.map_cons,
      List.map_nil, List.count_append, List.count_cons, List.count_nil]
    omega

theorem preempt {now : Timestamp} {xs ys : List (Nat × RunningJob)} {p : RunningJob}
    {after : JobPhase} (hjobs : c.jobs = xs ++ (i, p) :: ys)
    (hdoes : (p.job.next w now p.phase).Does deed after) :
    Sound w (c.advanceJob xs ys i p after deed) := by
  obtain ⟨hhonest, hcarries⟩ :=
    h.jobs (i, p) (hjobs ▸ List.mem_append_right _ List.mem_cons_self)
  have hothers e (he : e ∈ xs ++ ys) :
      e.2.Honest ∧ Carries w c.published e.1 e.2.job.request :=
    h.jobs e (hjobs ▸ ((List.sublist_cons_self _ _).append_left xs).subset he)
  unfold advanceJob
  rcases RunningJob.does_cases hhonest hdoes with
    ⟨hsent, hstill⟩ | ⟨cause, hsent, rfl, hunbound⟩
  · rw [send_none hsent]
    split
    · have hbound : (p.advance deed .finished).bound = true := hstill
      rw [hbound]
      refine ⟨h.flow, numbers_perm h.numbers rfl fun j ↦ ?_, h.current, hothers, h.holds⟩
      rw [count_numbers, count_numbers c, hjobs]
      simp only [inProcess, if_true, List.map_append, List.map_cons, List.map_nil,
        List.count_append, List.count_cons, List.count_nil]
      omega
    · refine ⟨h.flow, numbers_perm h.numbers rfl fun j ↦ ?_, h.current, fun e he ↦ ?_, h.holds⟩
      · rw [count_numbers, count_numbers c, hjobs]
        simp only [inProcess, List.map_append, List.map_cons]
      · rcases List.mem_append.1 he with he | he
        · exact hothers e (List.mem_append_left _ he)
        · rcases List.mem_cons.1 he with rfl | he
          · exact ⟨hstill, hcarries⟩
          · exact hothers e (List.mem_append_right _ he)
  · obtain ⟨queues', hsend, hflow⟩ := h.flow.send_retry hne (hcarries.again cause.message)
    have hsend' : c.queues.send w.config.backoffQueue (p.job.retry w cause).encode =
      (.ok (), queues') := hsend
    dsimp only
    rw [send_some hsent, hsend', hunbound]
    refine ⟨hflow, numbers_perm h.numbers rfl fun j ↦ ?_, h.current, hothers, h.holds⟩
    rw [count_numbers, count_numbers c, hjobs]
    simp only [inProcess, Bool.false_eq_true, if_false, List.append_nil, List.map_append,
      List.map_cons, List.count_append, List.count_cons, List.count_nil]
    omega

theorem relay {queues : Queues} {later : List Nat}
    (htake : c.queues.take? w.config.backoffQueue = some (d, queues))
    (hfirst : c.retries = i :: later) :
    Sound w { c with
      queues := queues.acknowledge d
      retries := later
      holds := c.holds ++ (Hold.ofBody? w.config.backoffQueue d.body).toList.map (i, ·) } := by
  obtain ⟨⟨r, hbody, hcarries⟩, hflow⟩ := h.flow.take_retry hne htake hfirst
  have hhold : Hold.ofBody? w.config.backoffQueue d.body = some ⟨r, w.config.receiveQueue⟩ := by
    rw [hbody]
    exact Hold.ofBody?_encode hcarries.read _
  rw [hhold]
  refine ⟨hflow.of_sameMessages (Queues.acknowledge_sameMessages queues d),
    numbers_perm h.numbers rfl fun j ↦ ?_, h.current, h.jobs, fun e he ↦ ?_⟩
  · rw [count_numbers, count_numbers c, hfirst]
    simp only [inProcess, Option.toList_some, List.map_append, List.map_cons, List.map_nil,
      List.count_append, List.count_cons, List.count_nil]
    omega
  · rcases List.mem_append.1 he with he | he
    · exact h.holds e he
    · cases List.mem_singleton.1 he
      exact ⟨rfl, hcarries⟩

theorem resend {xs ys : List (Nat × Hold)} {hold : Hold}
    (hholds : c.holds = xs ++ (i, hold) :: ys) :
    Sound w { c with
      queues := (c.queues.send hold.queue hold.body).2
      holds := xs ++ ys
      arrivals := c.arrivals ++ [i] } := by
  obtain ⟨hqueue, hcarries⟩ :=
    h.holds (i, hold) (hholds ▸ List.mem_append_right _ List.mem_cons_self)
  have harrived : Arrived w c.published i hold.body := .inr ⟨hold.request, rfl, hcarries⟩
  obtain ⟨queues', hsend, hflow⟩ := h.flow.send_arrival hne harrived
  rw [hqueue, hsend]
  have hothers e (he : e ∈ xs ++ ys) :
      e.2.queue = w.config.receiveQueue ∧ Carries w c.published e.1 e.2.request :=
    h.holds e (hholds ▸ ((List.sublist_cons_self _ _).append_left xs).subset he)
  refine ⟨hflow, numbers_perm h.numbers rfl fun j ↦ ?_, h.current, h.jobs, hothers⟩
  rw [count_numbers, count_numbers c, hholds]
  simp only [inProcess, List.map_append, List.map_cons, List.count_append, List.count_cons,
    List.count_nil]
  omega

theorem step (hstep : Step w c c') : Sound w c' := by
  cases hstep with
  | publish body hsend => exact h.publish hne hsend
  | take hidle htake hfirst => exact h.take hne hidle htake hfirst
  | work now hcurrent hdoes hpossible => exact h.work hne hcurrent hdoes hpossible
  | settle hcurrent => exact h.settle hcurrent
  | preempt now hjobs hdoes _ => exact h.preempt hne hjobs hdoes
  | relay htake hfirst => exact h.relay hne htake hfirst
  | resend hholds => exact h.resend hne hholds

theorem run (hreach : Relation.ReflTransGen (Step w) c c') : Sound w c' := by
  induction hreach with
  | refl => exact h
  | tail _ hstep ih => exact ih.step hne hstep

end Sound

/-! ### Requests from start to end -/

def items (w : Worker) (c : Circuit) : List (Nat × Option ScheduleRequest) :=
  (c.arrivals.zip (c.queues.queue w.config.receiveQueue).waiting).map
      (fun (i, body) ↦ (i, w.request? body)) ++
    c.inProcess.map (fun (i, d, phase) ↦ (i, phase.request?.or (w.request? d.body))) ++
    c.jobs.map (fun (i, p) ↦ (i, some p.job.request)) ++
    (c.retries.zip (c.queues.queue w.config.backoffQueue).waiting).map
      (fun (i, body) ↦ (i, (Hold.ofBody? w.config.backoffQueue body).map (·.request))) ++
    c.holds.map fun (i, h) ↦ (i, some h.request)

def start (w : Worker) (queues : Queues) : Circuit where
  queues
  published := (queues.queue w.config.receiveQueue).waiting
  arrivals := List.range (queues.queue w.config.receiveQueue).waiting.length

/-- What is known of a request that was published is known of it, and nothing else. -/
def Represents (w : Worker) (published : List Body) (i : Nat) (r? : Option ScheduleRequest) :
    Prop :=
  ∃ body, published[i]? = some body ∧ r?.map (·.identity) = (w.request? body).map (·.identity)

theorem Carries.represents (h : Carries w published i r) : Represents w published i (some r) := by
  obtain ⟨_, body, hbody, hsame⟩ := h
  exact ⟨body, hbody, hsame.symm⟩

theorem Arrived.represents {body : Body} (h : Arrived w published i body) :
    Represents w published i (w.request? body) := by
  rcases h with hpublished | ⟨r, rfl, hcarries⟩
  · exact ⟨body, hpublished, rfl⟩
  · rw [request?_encode hcarries.read]
    exact hcarries.represents

theorem Sound.items_map_fst (h : Sound w c) :
    (c.items w).map (·.1) ++ c.ended.map (·.1) = c.numbers := by
  have harrivals : (c.arrivals.zip (c.queues.queue w.config.receiveQueue).waiting).map (·.1) =
    c.arrivals := List.map_fst_zip (Nat.le_of_eq h.flow.arrived.length_eq)
  have hretries : (c.retries.zip (c.queues.queue w.config.backoffQueue).waiting).map (·.1) =
    c.retries := List.map_fst_zip (Nat.le_of_eq h.flow.returned.length_eq)
  unfold items Circuit.numbers
  rw [List.map_append, List.map_append, List.map_append, List.map_append]
  simp only [List.map_map, Function.comp_def, harrivals, hretries]

theorem Sound.items_represent (h : Sound w c) {e : Nat × Option ScheduleRequest}
    (he : e ∈ c.items w) : Represents w c.published e.1 e.2 := by
  obtain ⟨_, harrived⟩ := List.forall₂_iff_zip.1 h.flow.arrived
  obtain ⟨_, hreturned⟩ := List.forall₂_iff_zip.1 h.flow.returned
  unfold items at he
  simp only [List.mem_append, List.mem_map] at he
  rcases he with (((⟨⟨i, body⟩, hmem, rfl⟩ | ⟨⟨i, d, phase⟩, hmem, rfl⟩) | ⟨⟨i, p⟩, hmem, rfl⟩) |
    ⟨⟨i, body⟩, hmem, rfl⟩) | ⟨⟨i, hold⟩, hmem, rfl⟩
  · exact (harrived hmem).represents
  · obtain ⟨hcurrent, hpassed⟩ := List.mem_filter.1 hmem
    obtain ⟨harrived', hphase⟩ := h.current i d phase (Option.mem_toList.1 hcurrent)
    dsimp only at hpassed ⊢
    cases hrequest : phase.request? with
    | none => exact harrived'.represents
    | some r =>
      rcases hphase with hpassed' | hpending
      · rw [hpassed'] at hpassed
        cases hpassed
      · exact (hpending.request r hrequest).represents
  · exact (h.jobs _ hmem).2.represents
  · obtain ⟨r, rfl, hcarries⟩ := hreturned hmem
    dsimp only
    rw [Hold.ofBody?_encode hcarries.read]
    exact hcarries.represents
  · exact (h.holds _ hmem).2.represents

theorem sound_start {queues : Queues}
    (hreceiving : (queues.queue w.config.receiveQueue).consumer = .present)
    (hrelaying : (queues.queue w.config.backoffQueue).consumer = .present)
    (hempty : (queues.queue w.config.backoffQueue).waiting = []) : Sound w (start w queues) := by
  refine ⟨⟨hreceiving, hrelaying, ?_, ?_⟩, ?_, fun _ _ _ ↦ nofun, fun _ ↦ nofun, fun _ ↦ nofun⟩
  · refine List.forall₂_iff_get.2 ⟨List.length_range, fun i hi hi' ↦ .inl ?_⟩
    rw [List.get_eq_getElem, List.get_eq_getElem]
    unfold start
    rw [List.getElem_range]
    exact List.getElem?_eq_getElem hi'
  · unfold start
    dsimp only
    rw [hempty]
    exact .nil
  · refine .of_eq ?_
    unfold Circuit.numbers inProcess start
    simp

theorem send_extends (c : Circuit) (i : Nat) (deed : Deed) :
    c.published <+: (c.send i deed).published ∧ c.ended <+: (c.send i deed).ended := by
  unfold send
  split <;> exact ⟨List.prefix_rfl, List.prefix_rfl⟩

theorem step_extends (hstep : Step w c c') :
    c.published <+: c'.published ∧ c.ended <+: c'.ended := by
  cases hstep with
  | publish body _ => exact ⟨List.prefix_append _ _, List.prefix_rfl⟩
  | take _ _ _ => exact ⟨List.prefix_rfl, List.prefix_rfl⟩
  | work now _ _ _ => exact send_extends c _ _
  | @settle i d result _ =>
    cases result with
    | ok outcome => exact ⟨List.prefix_rfl, List.prefix_append _ _⟩
    | error cause => exact ⟨List.prefix_rfl, List.prefix_rfl⟩
  | @preempt xs ys i p after deed now _ _ _ =>
    obtain ⟨hpublished, hended⟩ := send_extends c i deed
    unfold advanceJob
    split
    · exact ⟨hpublished, List.prefix_append _ _⟩
    · exact ⟨hpublished, hended⟩
  | relay _ _ => exact ⟨List.prefix_rfl, List.prefix_rfl⟩
  | resend _ => exact ⟨List.prefix_rfl, List.prefix_rfl⟩

/-- Whatever the orchestrator and the schedulers answer, and in whatever order things happen: each
request that was published is under way in one place or has ended once, it keeps its key and its
age, and its retries name the queue that it was published on. What has ended stays ended. -/
theorem requests_conserved {queues : Queues}
    (hne : w.config.receiveQueue ≠ w.config.backoffQueue)
    (hreceiving : (queues.queue w.config.receiveQueue).consumer = .present)
    (hrelaying : (queues.queue w.config.backoffQueue).consumer = .present)
    (hempty : (queues.queue w.config.backoffQueue).waiting = [])
    (hreach : Relation.ReflTransGen (Step w) (start w queues) c) :
    ((c.items w).map (·.1) ++ c.ended.map (·.1)).Perm (List.range c.published.length) ∧
    c.arrivals.length = (c.queues.queue w.config.receiveQueue).waiting.length ∧
    c.retries.length = (c.queues.queue w.config.backoffQueue).waiting.length ∧
    (∀ e ∈ c.items w, Represents w c.published e.1 e.2) ∧
    (∀ body ∈ (c.queues.queue w.config.backoffQueue).waiting, ∃ retry,
      decodeMessage RetryRequest.read? w.config.backoffQueue body = .ok retry ∧
        retry.queue = w.config.receiveQueue) ∧
    (∀ e ∈ c.holds, e.2.queue = w.config.receiveQueue) ∧
    ∀ c', Relation.ReflTransGen (Step w) c c' →
      c.published <+: c'.published ∧ c.ended <+: c'.ended := by
  have h := (sound_start hreceiving hrelaying hempty).run hne hreach
  refine ⟨?_, h.flow.arrived.length_eq, h.flow.returned.length_eq, fun e ↦ h.items_represent,
    fun body hbody ↦ ?_, fun e he ↦ (h.holds e he).1, fun c' hlater ↦ ?_⟩
  · rw [h.items_map_fst]
    exact h.numbers
  · obtain ⟨i, r, rfl, hcarries⟩ := h.flow.exists_returned hbody
    exact ⟨_, RetryRequest.decode_encode hcarries.read _, rfl⟩
  · induction hlater with
    | refl => exact ⟨List.prefix_rfl, List.prefix_rfl⟩
    | tail _ hstep ih =>
      obtain ⟨hpublished, hended⟩ := step_extends hstep
      exact ⟨ih.1.trans hpublished, ih.2.trans hended⟩

/-- A request whose workload could not be looked up has been sent back, and the worker is not done
with it yet. It is there once. -/
theorem requests_conserved_waiting :
    ∃ (w : Worker) (queues : Queues) (c : Circuit),
      Relation.ReflTransGen (Step w) (start w queues) c ∧ c.retries = [0] ∧
      ((c.items w).map (·.1) ++ c.ended.map (·.1)).Perm [0] ∧
      (c.queues.queue w.config.backoffQueue).waiting.length = 1 ∧
      ∀ body ∈ (c.queues.queue w.config.backoffQueue).waiting, ∃ retry : RetryRequest,
        decodeMessage RetryRequest.read? w.config.backoffQueue body = .ok retry ∧
          retry.queue = w.config.receiveQueue := by
  let w : Worker := { config := {}, retry := {}, evictor := ⟨{}, {}⟩ }
  let r : ScheduleRequest := { key := "default/web" }
  let queues : Queues := ((∅ : Queues).insert w.config.receiveQueue
    { waiting := [r.encode], consumer := .present }).insert w.config.backoffQueue
    { consumer := .present }
  have hne : w.config.receiveQueue ≠ w.config.backoffQueue := by decide
  have hreceive : queues.queue w.config.receiveQueue =
      { waiting := [r.encode], consumer := .present } := by
    rw [Queues.queue_insert, if_neg hne, Queues.queue_insert, if_pos rfl]
  have hbackoff : queues.queue w.config.backoffQueue = { consumer := .present } := by
    rw [Queues.queue_insert, if_pos rfl]
  obtain ⟨d, queues₁, htake, hbody⟩ :=
    Queues.take?_of_waiting (congrArg Queue.waiting hreceive)
  obtain ⟨_, _, hother⟩ := Queues.take?_eq_some htake
  have hrelaying : (queues₁.queue w.config.backoffQueue).consumer = .present := by
    rw [hother _ hne.symm, hbackoff]
  let r' : ScheduleRequest := { r with message := (ClusterError.transport "down").message }
  obtain ⟨queues₂, hsend, _⟩ := Queues.send_present hrelaying (w.retryRequest r').encode
  have hkey : WorkloadKey.parse "default/web" = .ok ⟨"default", "web"⟩ := by rfl
  have hbegin : w.begin d.body = .fetching r ⟨"default", "web"⟩ := by
    rw [hbody]
    exact Worker.begin_encode ⟨by decide, by decide, by decide⟩ hkey
  have harrivals : (start w queues).arrivals = [0] := by
    unfold start
    rw [hreceive]
    rfl
  let c₁ : Circuit := { start w queues with
    queues := queues₁, current := some (0, d, .fetching r ⟨"default", "web"⟩), arrivals := [] }
  have htaken : Step w (start w queues) c₁ := by
    have hstep : Step w (start w queues) _ := .take rfl htake harrivals
    rwa [hbegin] at hstep
  let c₂ : Circuit := { c₁ with current := some (0, d, .publishing r') }
  have hlookUp : (w.next default (.fetching r ⟨"default", "web"⟩)).Does
    (.called (.getWorkload "default" "web") (.error (.transport "down"))) (.publishing r') :=
    .call (.error (.transport "down"))
  have hlooked : Step w c₁ c₂ := .work default rfl hlookUp trivial
  have hpublish : (w.next default (.publishing r')).Does
    (.sent w.config.backoffQueue (w.retryRequest r').encode (.ok ()))
    (.finished (.ok (.retrying 0))) := .send (.ok ())
  have hsent := ((Relation.ReflTransGen.single htaken).tail hlooked).tail
    (.work default rfl hpublish (congrArg Prod.fst hsend))
  obtain ⟨hcounted, _, hwaiting, _, hreturns, _⟩ := requests_conserved hne
    (congrArg Queue.consumer hreceive) (congrArg Queue.consumer hbackoff)
    (congrArg Queue.waiting hbackoff) hsent
  have hpublished : (start w queues).published.length = 1 :=
    congrArg (List.length ∘ Queue.waiting) hreceive
  refine ⟨w, queues, _, hsent, rfl, ?_, hwaiting.symm, hreturns⟩
  have hrange : List.range (start w queues).published.length = [0] := by rw [hpublished]; rfl
  exact hrange ▸ hcounted

end PodPlacement.Circuit
