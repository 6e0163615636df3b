import PodPlacement.Proofs.Scheduling.Decision
import PodPlacement.Proofs.Service.Backoff
import PodPlacement.Proofs.Service.Preemption
import PodPlacement.Proofs.Service.Queues

/-!
A worker and a relay that pass requests to each other, everything that can happen to a request on
its way, and what it carries along.
-/

namespace PodPlacement

/-! ### What moves requests -/

inductive Ending
  | bound
  | boundAfterPreemption
  | gaveUp
  | dropped
deriving DecidableEq, Repr

namespace ScheduleRequest

def identity (r : ScheduleRequest) : String × Duration := (r.key, r.processed)

end ScheduleRequest

namespace Worker

def request? (w : Worker) (body : Body) : Option ScheduleRequest :=
  match decodeMessage ScheduleRequest.read? w.config.receiveQueue body with
  | .ok r => some r
  | .error _ => none

end Worker

namespace RequestPhase

def request? : RequestPhase → Option ScheduleRequest
  | fetching r _ | deciding r _ | binding r _ _ | warning r _ | publishing r => some r
  | launching job _ => some job.request
  | _ => none

/-- The request waits elsewhere by now, or a preemption has it. -/
def isPassedOn : RequestPhase → Bool
  | finished (.ok (.retrying _)) | finished (.ok (.preempting _ _)) => true
  | _ => false

end RequestPhase

def Deed.launching? : Deed → Option PreemptionJob
  | launched job => some job
  | _ => none

def Outcome.ending? : Outcome → Option Ending
  | .bound _ => some .bound
  | .gaveUp => some .gaveUp
  | .dropped => some .dropped
  | .preempting _ _ | .retrying _ => none

/-- A worker and a relay over queues in memory, with what is under way between them. Requests are
numbered in the order in which they were published; the numbers and the lists below `holds` only
keep account, and nothing that runs reads them. -/
structure Circuit where
  queues : Queues
  current : Option (Nat × Delivery × RequestPhase) := none
  jobs : List (Nat × RunningJob) := []
  holds : List (Nat × Hold) := []
  published : List Body := []
  /-- The requests that the messages on the receive queue stand for, in their order. -/
  arrivals : List Nat := []
  retries : List Nat := []
  ended : List (Nat × Ending) := []

namespace Circuit

variable (w : Worker)

/-- What can happen in the circuit: sending gives what the queues answer, and deciding what a
scheduler answers. -/
def Possible (c : Circuit) : Deed → Prop
  | .sent queue body answer => (c.queues.send queue body).1 = answer
  | .decided p result => ∃ (s : Scheduler) (fitting freeing : Arrival (NodeInfo × Nat))
      (snapshot : Snapshot), (s.schedule fitting freeing snapshot p).1 = result
  | _ => True

def send (c : Circuit) (i : Nat) (deed : Deed) : Circuit :=
  match deed.sending? with
  | some (queue, body) =>
    { c with queues := (c.queues.send queue body).2, retries := c.retries ++ [i] }
  | none => c

def advance (c : Circuit) (i : Nat) (d : Delivery) (phase : RequestPhase) (deed : Deed) : Circuit :=
  { c.send i deed with
    current := some (i, d, phase)
    jobs := c.jobs ++ deed.launching?.toList.map fun job ↦ (i, .start w job) }

def settle (c : Circuit) (i : Nat) (d : Delivery) : Except ServiceError Outcome → Circuit
  | .ok outcome =>
    { c with
      queues := c.queues.acknowledge d
      current := none
      ended := c.ended ++ outcome.ending?.toList.map (i, ·) }
  -- Nothing is left of a request that is dropped without an outcome.
  | .error _ => { c with queues := c.queues.release d, current := none }

/-- The preemption `p` for the request `i` goes on to `phase` by a deed; `xs` and `ys` are the other
preemptions. Once it is finished, the request has ended if the pod was bound. -/
def advanceJob (c : Circuit) (xs ys : List (Nat × RunningJob)) (i : Nat) (p : RunningJob)
    (phase : JobPhase) (deed : Deed) : Circuit :=
  match phase with
  | .finished =>
    { c.send i deed with
      jobs := xs ++ ys
      ended := c.ended ++
        if (p.advance deed .finished).bound then [(i, .boundAfterPreemption)] else [] }
  | phase => { c.send i deed with jobs := xs ++ (i, p.advance deed phase) :: ys }

/-- The steps of the worker, of its preemptions, of the relay and of its timers, and of those who
publish requests, one at a time and in any order. -/
inductive Step : Circuit → Circuit → Prop
  | publish {c : Circuit} {queues : Queues} (body : Body) :
      c.queues.send w.config.receiveQueue body = (.ok (), queues) →
      Step c { c with
        queues, published := c.published ++ [body], arrivals := c.arrivals ++ [c.published.length] }
  | take {c : Circuit} {d : Delivery} {queues : Queues} {i : Nat} {arrivals : List Nat} :
      c.current = none → c.queues.take? w.config.receiveQueue = some (d, queues) →
      c.arrivals = i :: arrivals →
      Step c { c with queues, current := some (i, d, w.begin d.body), arrivals }
  | work {c : Circuit} {i : Nat} {d : Delivery} {phase after : RequestPhase} {deed : Deed}
      (now : Timestamp) : c.current = some (i, d, phase) → (w.next now phase).Does deed after →
      c.Possible deed → Step c (c.advance w i d after deed)
  | settle {c : Circuit} {i : Nat} {d : Delivery} {result : Except ServiceError Outcome} :
      c.current = some (i, d, .finished result) → Step c (c.settle i d result)
  | preempt {c : Circuit} {xs ys : List (Nat × RunningJob)} {i : Nat} {p : RunningJob}
      {after : JobPhase} {deed : Deed} (now : Timestamp) : c.jobs = xs ++ (i, p) :: ys →
      (p.job.next w now p.phase).Does deed after → c.Possible deed →
      Step c (c.advanceJob xs ys i p after deed)
  | relay {c : Circuit} {d : Delivery} {queues : Queues} {i : Nat} {retries : List Nat} :
      c.queues.take? w.config.backoffQueue = some (d, queues) → c.retries = i :: retries →
      Step c { c with
        queues := queues.acknowledge d
        retries
        holds := c.holds ++ (Hold.ofBody? w.config.backoffQueue d.body).toList.map (i, ·) }
  | resend {c : Circuit} {xs ys : List (Nat × Hold)} {i : Nat} {h : Hold} :
      c.holds = xs ++ (i, h) :: ys →
      Step c { c with
        queues := (c.queues.send h.queue h.body).2
        holds := xs ++ ys
        arrivals := c.arrivals ++ [i] }

def inProcess (c : Circuit) : List (Nat × Delivery × RequestPhase) :=
  c.current.toList.filter fun e ↦ !e.2.2.isPassedOn

def numbers (c : Circuit) : List Nat :=
  c.arrivals ++ c.inProcess.map (·.1) ++ c.jobs.map (·.1) ++ c.retries ++ c.holds.map (·.1) ++
    c.ended.map (·.1)

structure Carries (published : List Body) (i : Nat) (r : ScheduleRequest) : Prop where
  read : r.IsRead
  same : ∃ body, published[i]? = some body ∧
    (w.request? body).map (·.identity) = some r.identity

def Arrived (published : List Body) (i : Nat) (body : Body) : Prop :=
  published[i]? = some body ∨ ∃ r, body = r.encode ∧ Carries w published i r

def Returned (published : List Body) (i : Nat) (body : Body) : Prop :=
  ∃ r, body = (w.retryRequest r).encode ∧ Carries w published i r

structure Pending (published : List Body) (i : Nat) (phase : RequestPhase) : Prop where
  request : ∀ r, phase.request? = some r → Carries w published i r
  ending : ∀ result, phase = .finished result →
    ∃ outcome ending, result = .ok outcome ∧ outcome.ending? = some ending

/-- What waits on the two queues: requests with the numbers `arrivals`, and retries of `retries`. -/
structure Flow (queues : Queues) (published : List Body) (arrivals retries : List Nat) :
    Prop where
  receiving : (queues.queue w.config.receiveQueue).consumer = .present
  relaying : (queues.queue w.config.backoffQueue).consumer = .present
  arrived : List.Forall₂ (Arrived w published) arrivals
    (queues.queue w.config.receiveQueue).waiting
  returned : List.Forall₂ (Returned w published) retries
    (queues.queue w.config.backoffQueue).waiting

structure Sound (c : Circuit) : Prop where
  flow : Flow w c.queues c.published c.arrivals c.retries
  numbers : c.numbers.Perm (List.range c.published.length)
  current : ∀ i d phase, c.current = some (i, d, phase) → Arrived w c.published i d.body ∧
    (phase.isPassedOn = true ∨ Pending w c.published i phase)
  jobs : ∀ e ∈ c.jobs, e.2.Honest ∧ Carries w c.published e.1 e.2.job.request
  holds : ∀ e ∈ c.holds, e.2.queue = w.config.receiveQueue ∧ Carries w c.published e.1 e.2.request

variable {w} {c c' : Circuit} {i : Nat} {d : Delivery} {r : ScheduleRequest}
  {published : List Body} {phase after : RequestPhase} {deed : Deed}

/-! ### What a request carries along -/

theorem Carries.change {lastBackoff : Nat} {message : String} (h : Carries w published i r)
    (hwait : lastBackoff < 0x10000000000000000) :
    Carries w published i { r with lastBackoff, message } := by
  obtain ⟨hread, hsame⟩ := h
  exact ⟨⟨hwait, hread.processed⟩, hsame⟩

theorem Carries.again (h : Carries w published i r) (message : String) :
    Carries w published i { r with message } := h.change h.read.lastBackoff

theorem Carries.publish (h : Carries w published i r) (more : List Body) :
    Carries w (published ++ more) i r := by
  obtain ⟨hread, body, hbody, hsame⟩ := h
  refine ⟨hread, body, ?_, hsame⟩
  obtain ⟨hlt, _⟩ := List.getElem?_eq_some_iff.1 hbody
  rwa [List.getElem?_append_left hlt]

theorem Arrived.publish {body : Body} (h : Arrived w published i body) (more : List Body) :
    Arrived w (published ++ more) i body := by
  rcases h with hpublished | ⟨r, hbody, hcarries⟩
  · obtain ⟨hlt, _⟩ := List.getElem?_eq_some_iff.1 hpublished
    exact .inl ((List.getElem?_append_left hlt).trans hpublished)
  · exact .inr ⟨r, hbody, hcarries.publish more⟩

theorem request?_encode (hread : r.IsRead) : w.request? r.encode = some r := by
  unfold Worker.request?
  rw [ScheduleRequest.decode_encode hread]

theorem Arrived.carries {body : Body} (h : Arrived w published i body)
    (hbody : w.request? body = some r) : Carries w published i r := by
  rcases h with hpublished | ⟨r', rfl, hcarries⟩
  · refine ⟨?_, body, hpublished, congrArg (Option.map (·.identity)) hbody⟩
    unfold Worker.request? at hbody
    split at hbody
    · next hdecode =>
      cases hbody
      exact ScheduleRequest.isRead_of_decode hdecode
    · cases hbody
  · rw [request?_encode hcarries.read] at hbody
    cases hbody
    exact hcarries

/-! ### What the worker does with a request -/

theorem Pending.of_request (hrequest : phase.request? = some r) (h : Carries w published i r) :
    Pending w published i phase := by
  refine ⟨fun r' hr' ↦ ?_, fun result heq ↦ ?_⟩
  · cases hrequest.symm.trans hr'
    exact h
  · rw [heq] at hrequest
    cases hrequest

theorem Pending.of_none (hrequest : phase.request? = none)
    (hfinished : ∀ result, phase ≠ .finished result) : Pending w published i phase := by
  refine ⟨fun r hr ↦ ?_, fun result heq ↦ absurd heq (hfinished result)⟩
  cases hrequest.symm.trans hr

theorem Pending.of_ending {outcome : Outcome} {ending : Ending}
    (hending : outcome.ending? = some ending) :
    Pending w published i (.finished (.ok outcome)) := by
  refine ⟨fun r ↦ nofun, fun result heq ↦ ?_⟩
  cases heq
  exact ⟨outcome, ending, rfl, hending⟩

theorem Pending.isPassedOn (h : Pending w published i phase) : phase.isPassedOn = false := by
  cases phase with
  | finished result =>
    obtain ⟨outcome, ending, rfl, hending⟩ := h.ending result rfl
    cases outcome with
    | preempting _ _ | retrying _ => cases hending
    | _ => rfl
  | _ => rfl

theorem Pending.publish (h : Pending w published i phase) (more : List Body) :
    Pending w (published ++ more) i phase :=
  ⟨fun r hr ↦ (h.request r hr).publish more, h.ending⟩

theorem Pending.begin {body : Body} (h : Arrived w published i body) :
    Pending w published i (w.begin body) := by
  have hcarries r : w.request? body = some r → Carries w published i r := h.carries
  unfold Worker.request? at hcarries
  unfold Worker.begin
  split
  · exact .of_ending rfl
  · next r hbody =>
    rw [hbody] at hcarries
    split
    · exact .of_ending rfl
    · exact .of_request rfl (hcarries r rfl)

theorem Pending.requeue (h : Carries w published i r) (reason : String) :
    Pending w published i (Worker.requeue r reason) := .of_request rfl (h.again reason)

theorem Pending.afterFetch (h : Carries w published i r) (answer : Except ClusterError Pod) :
    Pending w published i (Worker.afterFetch r answer) := by
  unfold Worker.afterFetch
  split
  · split
    · exact .of_ending rfl
    · exact .of_request rfl h
  · split
    · exact .of_ending rfl
    · exact .requeue h _

theorem Pending.backOff (h : Carries w published i r) (p : Pod) (reason : String) :
    Pending w published i (w.backOff r p reason) := by
  unfold Worker.backOff
  split
  · exact .of_none rfl fun _ ↦ nofun
  · exact .of_request rfl (h.change (w.growBackoff_lt _))

theorem Pending.afterDecision (h : Carries w published i r) {p : Pod}
    {result : Except SchedulingError Decision}
    (hpossible : c.Possible (.decided p result)) (elapsed : Duration) :
    Pending w published i (w.afterDecision r p result elapsed) := by
  unfold Worker.afterDecision
  split
  · split
    · exact .backOff h p _
    · exact .requeue h _
  · next decision =>
    dsimp only
    split
    · exact .of_request rfl h
    · next victim hvictim =>
      -- A victim without a name would end the attempt with an error.
      obtain ⟨s, fitting, freeing, snapshot, hdecision⟩ := hpossible
      obtain ⟨key, hkey⟩ := Scheduler.schedule_victim hdecision hvictim
      rw [hkey]
      exact .of_request rfl h

theorem Pending.afterBind (h : Carries w published i r) (node : String)
    (answer : Except ClusterError Unit) :
    Pending w published i (Worker.afterBind r node answer) := by
  unfold Worker.afterBind
  split
  · exact .of_ending rfl
  · exact .requeue h _

theorem Pending.settleMark (w : Worker) (key : WorkloadKey) (s : RetryState)
    (outcome : Except ClusterError Unit) : Pending w published i (w.settleMark key s outcome) := by
  unfold Worker.settleMark
  split
  · exact .of_ending rfl
  · exact .of_none rfl fun _ ↦ nofun

theorem isPassedOn_of_does {now : Timestamp} (h : (w.next now phase).Does deed after) :
    phase.isPassedOn = false := by
  cases phase with
  | finished result => cases h
  | _ => rfl

/-- The worker keeps a request, or sends it to where the relay finds it, or begins a preemption for
it. -/
theorem Pending.does_cases {now : Timestamp} (h : Pending w published i phase)
    (hdoes : (w.next now phase).Does deed after)
    (hpossible : c.Possible deed)
    (hsends : ∀ body, (c.queues.send w.config.backoffQueue body).1 = .ok ()) :
    (deed.sending? = none ∧ deed.launching? = none ∧ Pending w published i after) ∨
    (∃ r, phase.request? = some r ∧ deed.launching? = none ∧ after.isPassedOn = true ∧
      deed.sending? = some (w.config.backoffQueue, (w.retryRequest r).encode)) ∨
    ∃ job, phase.request? = some job.request ∧ deed.launching? = some job ∧
      after.isPassedOn = true ∧ deed.sending? = none := by
  cases phase with
  | fetching r key =>
    cases hdoes with
    | call answer => exact .inl ⟨rfl, rfl, .afterFetch (h.request r rfl) answer⟩
  | deciding r p =>
    cases hdoes with
    | decide result elapsed =>
      exact .inl ⟨rfl, rfl, .afterDecision (h.request r rfl) hpossible elapsed⟩
  | binding r p node =>
    cases hdoes with
    | call answer => exact .inl ⟨rfl, rfl, .afterBind (h.request r rfl) node answer⟩
  | launching job key =>
    cases hdoes
    exact .inr (.inr ⟨job, rfl, rfl, rfl, rfl⟩)
  | warning r p =>
    cases hdoes with
    | call answer => exact .inl ⟨rfl, rfl, .of_request rfl (h.request r rfl)⟩
  | publishing r =>
    cases hdoes with
    | send answer =>
      -- A send that failed would finish the attempt and leave the request nowhere.
      cases hpossible.symm.trans (hsends _)
      exact .inr (.inl ⟨r, rfl, rfl, rfl, rfl⟩)
  | partingNotice p reason =>
    cases hdoes with
    | call answer =>
      refine .inl ⟨rfl, rfl, ?_⟩
      unfold Worker.beginMark
      split
      · exact .of_ending rfl
      · exact .of_none rfl fun _ ↦ nofun
  | markReading key s =>
    cases hdoes with
    | call answer =>
      refine .inl ⟨rfl, rfl, ?_⟩
      unfold Worker.afterMarkRead
      split
      · exact .of_none rfl fun _ ↦ nofun
      · exact .settleMark w key s _
  | markWriting key s p =>
    cases hdoes with
    | call answer => exact .inl ⟨rfl, rfl, .settleMark w key s _⟩
  | markResting key s d =>
    cases hdoes with
    | sleep => exact .inl ⟨rfl, rfl, .of_none rfl fun _ ↦ nofun⟩
  | finished result => cases hdoes

/-! ### What waits on the queues -/

namespace Flow

variable {queues queues' : Queues} {arrivals retries : List Nat} {body : Body}

theorem publish (h : Flow w queues published arrivals retries) (more : List Body) :
    Flow w queues (published ++ more) arrivals retries := by
  obtain ⟨hreceiving, hrelaying, harrived, hreturned⟩ := h
  refine ⟨hreceiving, hrelaying, harrived.imp fun _ _ h ↦ h.publish more, ?_⟩
  exact hreturned.imp fun _ _ ⟨r, hbody, hcarries⟩ ↦ ⟨r, hbody, hcarries.publish more⟩

theorem of_sameMessages (h : Flow w queues published arrivals retries)
    (hsame : Queues.SameMessages queues queues') : Flow w queues' published arrivals retries := by
  obtain ⟨hreceiving, hrelaying, harrived, hreturned⟩ := h
  obtain ⟨hwaiting, hconsumer⟩ := hsame w.config.receiveQueue
  obtain ⟨hwaiting', hconsumer'⟩ := hsame w.config.backoffQueue
  refine ⟨hconsumer.trans hreceiving, hconsumer'.trans hrelaying, ?_, ?_⟩
  · rwa [hwaiting]
  · rwa [hwaiting']

theorem exists_returned (h : Flow w queues published arrivals retries)
    (hbody : body ∈ (queues.queue w.config.backoffQueue).waiting) :
    ∃ i, Returned w published i body := by
  obtain ⟨n, hn, rfl⟩ := List.getElem_of_mem hbody
  exact ⟨_, h.returned.get (h.returned.length_eq ▸ hn) hn⟩

variable (hne : w.config.receiveQueue ≠ w.config.backoffQueue)
  (h : Flow w queues published arrivals retries)

include hne h

theorem send_arrival (hbody : Arrived w published i body) :
    ∃ queues', queues.send w.config.receiveQueue body = (.ok (), queues') ∧
      Flow w queues' published (arrivals ++ [i]) retries := by
  obtain ⟨hreceiving, hrelaying, harrived, hreturned⟩ := h
  obtain ⟨queues', hsend, hwaiting, hpresent, hother⟩ := Queues.send_present hreceiving body
  have hbackoff := hother _ hne.symm
  refine ⟨queues', hsend, hpresent, ?_, ?_, ?_⟩
  · rwa [hbackoff]
  · rw [hwaiting]
    exact List.rel_append harrived (.cons hbody .nil)
  · rwa [hbackoff]

theorem send_retry (hcarries : Carries w published i r) :
    ∃ queues', queues.send w.config.backoffQueue (w.retryRequest r).encode = (.ok (), queues') ∧
      Flow w queues' published arrivals (retries ++ [i]) := by
  obtain ⟨hreceiving, hrelaying, harrived, hreturned⟩ := h
  obtain ⟨queues', hsend, hwaiting, hpresent, hother⟩ :=
    Queues.send_present hrelaying (w.retryRequest r).encode
  have hreceive := hother _ hne
  refine ⟨queues', hsend, ?_, hpresent, ?_, ?_⟩
  · rwa [hreceive]
  · rwa [hreceive]
  · rw [hwaiting]
    exact List.rel_append hreturned (.cons ⟨r, rfl, hcarries⟩ .nil)

theorem take_arrival {later : List Nat}
    (htake : queues.take? w.config.receiveQueue = some (d, queues'))
    (hfirst : arrivals = i :: later) :
    Arrived w published i d.body ∧ Flow w queues' published later retries := by
  obtain ⟨hreceiving, hrelaying, harrived, hreturned⟩ := h
  obtain ⟨hwaiting, hconsumer, hother⟩ := Queues.take?_eq_some htake
  have hbackoff := hother _ hne.symm
  rw [hfirst, hwaiting, List.forall₂_cons] at harrived
  refine ⟨harrived.1, hconsumer.trans hreceiving, ?_, harrived.2, ?_⟩
  · rwa [hbackoff]
  · rwa [hbackoff]

theorem take_retry {later : List Nat}
    (htake : queues.take? w.config.backoffQueue = some (d, queues'))
    (hfirst : retries = i :: later) :
    Returned w published i d.body ∧ Flow w queues' published arrivals later := by
  obtain ⟨hreceiving, hrelaying, harrived, hreturned⟩ := h
  obtain ⟨hwaiting, hconsumer, hother⟩ := Queues.take?_eq_some htake
  have hreceive := hother _ hne
  rw [hfirst, hwaiting, List.forall₂_cons] at hreturned
  refine ⟨hreturned.1, ?_, hconsumer.trans hrelaying, ?_, hreturned.2⟩
  · rwa [hreceive]
  · rwa [hreceive]

end Flow

/-! ### Where requests are counted -/

theorem send_none (hsent : deed.sending? = none) : c.send i deed = c := by
  unfold send
  rw [hsent]

theorem send_some {queue : String} {body : Body} (hsent : deed.sending? = some (queue, body)) :
    c.send i deed =
      { c with queues := (c.queues.send queue body).2, retries := c.retries ++ [i] } := by
  unfold send
  rw [hsent]

theorem advance_unlaunched (hlaunched : deed.launching? = none) :
    c.advance w i d after deed = { c.send i deed with current := some (i, d, after) } := by
  have hjobs : (c.send i deed).jobs = c.jobs := by
    unfold send
    split <;> rfl
  unfold advance
  rw [hlaunched, Option.toList_none, List.map_nil, List.append_nil, ← hjobs]

theorem inProcess_pending (hcurrent : c.current = some (i, d, phase))
    (hpending : phase.isPassedOn = false) : c.inProcess = [(i, d, phase)] := by
  unfold inProcess
  rw [hcurrent]
  exact List.filter_cons_of_pos (by rw [hpending]; rfl)

theorem inProcess_passedOn (hcurrent : c.current = some (i, d, phase))
    (hpassed : phase.isPassedOn = true) : c.inProcess = [] := by
  unfold inProcess
  rw [hcurrent]
  exact List.filter_cons_of_neg (by rw [hpassed]; exact nofun)

theorem inProcess_idle (hidle : c.current = none) : c.inProcess = [] := by
  unfold inProcess
  rw [hidle]
  rfl

theorem count_numbers (c : Circuit) (j : Nat) :
    c.numbers.count j = c.arrivals.count j + (c.inProcess.map (·.1)).count j +
      (c.jobs.map (·.1)).count j + c.retries.count j + (c.holds.map (·.1)).count j +
      (c.ended.map (·.1)).count j := by
  simp only [numbers, List.count_append]

/-- Requests that only move are counted as before. -/
theorem numbers_perm (h : c.numbers.Perm (List.range c.published.length))
    (hpublished : c'.published = c.published)
    (hcount : ∀ j, c'.numbers.count j = c.numbers.count j) :
    c'.numbers.Perm (List.range c'.published.length) := by
  rw [hpublished]
  exact (List.perm_iff_count.2 hcount).trans h

end Circuit

end PodPlacement
