import PodPlacement.Proofs.Orchestrator.Run
import PodPlacement.Proofs.Service.Circuit

/-!
The ways in which a worker brings a message to an outcome, each with everything that is done on it,
and the account that every one of them gives: what was sent, bound, recorded and launched.
-/

namespace PodPlacement

namespace Deed

def isBind : Deed → Bool
  | called c _ => c.binds
  | _ => false

def isFetch : Deed → Bool
  | called (.getWorkload _ _) _ => true
  | _ => false

def event? : Deed → Option Event
  | called (.createEvent e) _ => some e
  | _ => none

def failure? : Deed → Option String
  | called (.getWorkload _ _) (.error e) | called (.bind _ _) (.error e) => some e.message
  | decided _ (.error e) => some e.message
  | _ => none

def marks : Deed → Bool
  | called (.getWorkload _ _) _ | called (.updateWorkloadStatus _) _ | slept _ => true
  | _ => false

/-- Marking sends, records, launches and binds nothing. -/
theorem of_marks {deed : Deed} (h : deed.marks = true) : deed.sending? = none ∧
    deed.event? = none ∧ deed.launching? = none ∧ deed.isBind = false := by
  cases deed with
  | called c answer =>
    cases c with
    | getWorkload => exact ⟨rfl, rfl, rfl, rfl⟩
    | updateWorkloadStatus => exact ⟨rfl, rfl, rfl, rfl⟩
    | _ => cases h
  | slept d => exact ⟨rfl, rfl, rfl, rfl⟩
  | _ => cases h

end Deed

namespace Worker

/-- The message is a request, and its key is the key of a workload. -/
def Reads (w : Worker) (body : Body) (r : ScheduleRequest) (key : WorkloadKey) : Prop :=
  decodeMessage ScheduleRequest.read? w.config.receiveQueue body = .ok r ∧
    WorkloadKey.parse r.key = .ok key

def puts (w : Worker) (r : ScheduleRequest) : Deed :=
  .sent w.config.backoffQueue (w.retryRequest r).encode (.ok ())

def fetch (key : WorkloadKey) : Call := .getWorkload key.space key.name

inductive Exit (w : Worker) (body : Body) : List Deed → Outcome → Prop
  | unreadable {e : ServiceError} :
      decodeMessage ScheduleRequest.read? w.config.receiveQueue body = .error e →
      Exit w body [] .dropped
  | unparsable {r : ScheduleRequest} {e : ClusterError} :
      decodeMessage ScheduleRequest.read? w.config.receiveQueue body = .ok r →
      WorkloadKey.parse r.key = .error e → Exit w body [] .dropped
  | missing {r : ScheduleRequest} {key : WorkloadKey} {e : ClusterError} : w.Reads body r key →
      e.isNotFound = true → Exit w body [.called (fetch key) (.error e)] .dropped
  | placed {r : ScheduleRequest} {key : WorkloadKey} {p : Pod} : w.Reads body r key →
      p.nodeName?.isSome = true → Exit w body [.called (fetch key) (.ok p)] .dropped
  | unfetched {r : ScheduleRequest} {key : WorkloadKey} {e : ClusterError} : w.Reads body r key →
      e.isNotFound = false →
      Exit w body [.called (fetch key) (.error e), w.puts { r with message := e.message }]
        (.retrying r.lastBackoff)
  | undecided {r : ScheduleRequest} {key : WorkloadKey} {p : Pod} {e : SchedulingError} :
      w.Reads body r key → p.nodeName? = none → e.isUnschedulable = false →
      Exit w body [.called (fetch key) (.ok p), .decided p (.error e),
        w.puts { r with message := e.message }] (.retrying r.lastBackoff)
  | postponed {r : ScheduleRequest} {key : WorkloadKey} {p : Pod} {e : SchedulingError}
      {wait : Nat} (now : Timestamp) (answer : Except ClusterError Unit) : w.Reads body r key →
      p.nodeName? = none → e.isUnschedulable = true → r.lastBackoff < w.config.maxBackoff →
      wait = w.growBackoff r.lastBackoff →
      Exit w body [.called (fetch key) (.ok p), .decided p (.error e),
        .called (w.event now p Event.warningType
          (retryNotice { r with lastBackoff := wait, message := e.message })) answer,
        w.puts { r with lastBackoff := wait, message := e.message }] (.retrying wait)
  | gaveUp {r : ScheduleRequest} {key : WorkloadKey} {p : Pod} {e : SchedulingError}
      {marking : List Deed} (now : Timestamp) (answer : Except ClusterError Unit) :
      w.Reads body r key → p.nodeName? = none → e.isUnschedulable = true →
      w.config.maxBackoff ≤ r.lastBackoff → (∀ deed ∈ marking, deed.marks = true) →
      Exit w body (.called (fetch key) (.ok p) :: .decided p (.error e) ::
        .called (w.event now p Event.fatalType (partingText e.message)) answer :: marking) .gaveUp
  | bound {r : ScheduleRequest} {key : WorkloadKey} {p : Pod} {host : String}
      (elapsed : Duration) : w.Reads body r key → p.nodeName? = none →
      Exit w body [.called (fetch key) (.ok p), .decided p (.ok ⟨host, none⟩),
        .called (.bind (p.annotate r.processed elapsed) host) (.ok ())] (.bound host)
  | unbound {r : ScheduleRequest} {key : WorkloadKey} {p : Pod} {host : String}
      {e : ClusterError} (elapsed : Duration) : w.Reads body r key → p.nodeName? = none →
      Exit w body [.called (fetch key) (.ok p), .decided p (.ok ⟨host, none⟩),
        .called (.bind (p.annotate r.processed elapsed) host) (.error e),
        w.puts { r with message := e.message }] (.retrying r.lastBackoff)
  | preempting {r : ScheduleRequest} {key victimKey : WorkloadKey} {p victim : Pod}
      {host : String} (elapsed : Duration) : w.Reads body r key → p.nodeName? = none →
      WorkloadKey.ofPod victim = .ok victimKey →
      Exit w body [.called (fetch key) (.ok p), .decided p (.ok ⟨host, some victim⟩),
        .launched ⟨r, p.annotate r.processed elapsed, host, victim⟩]
        (.preempting host victimKey.text)

/-- The message asks for nothing that could be done: it is no request or its key is none, or its
workload turned out to be gone or to have a node. -/
def Idle (w : Worker) (body : Body) (deeds : List Deed) : Prop :=
  (∀ r, decodeMessage ScheduleRequest.read? w.config.receiveQueue body ≠ .ok r) ∨
  (∃ r e, decodeMessage ScheduleRequest.read? w.config.receiveQueue body = .ok r ∧
    WorkloadKey.parse r.key = .error e) ∨
  ∃ r key, w.Reads body r key ∧
    ((∃ e, deeds.head? = some (.called (fetch key) (.error e)) ∧ e.isNotFound = true) ∨
      ∃ p, deeds.head? = some (.called (fetch key) (.ok p)) ∧ p.nodeName?.isSome = true)

/-- What has been done about a message by the time that it has come to an outcome. -/
structure Accounted (w : Worker) (body : Body) (deeds : List Deed) (outcome : Outcome) :
    Prop where
  /-- The request that waits is the one that came, with its wait and the reason for it. -/
  retried : ∀ wait, outcome = .retrying wait → ∃ r text,
    decodeMessage ScheduleRequest.read? w.config.receiveQueue body = .ok r ∧
    deeds.filterMap (·.failure?) = [text] ∧
    deeds.filterMap (·.sending?) = [(w.config.backoffQueue,
      RetryRequest.encode ⟨⟨r.key, wait, r.processed, text⟩, w.config.receiveQueue⟩)]
  unsent : (∀ wait, outcome ≠ .retrying wait) → deeds.filterMap (·.sending?) = []
  boundOnce : deeds.countP (·.isBind) ≤ 1
  bound : ∀ node, outcome = .bound node ↔ ∃ p, .called (.bind p node) (.ok ()) ∈ deeds
  /-- Only a workload that was found without a node is to be bound. -/
  unplaced : ∀ p node answer, .called (.bind p node) answer ∈ deeds → ∃ r key found,
    w.Reads body r key ∧ deeds.head? = some (.called (fetch key) (.ok found)) ∧
    found.nodeName? = none ∧ p.nodeName? = none
  dropped : outcome = .dropped ↔ w.Idle body deeds
  untouched : outcome = .dropped → ∀ deed ∈ deeds, deed.isFetch = true
  warned : ∀ wait, outcome = .retrying wait → deeds.any (·.refuses) = true → ∃ now p e,
    .decided p (.error e) ∈ deeds ∧ deeds.filterMap (·.event?) =
      [.aboutPod now p Event.warningType failedReason
        ("Scheduler will retry in " ++ toString wait ++ " seconds; Reason: " ++ e.message)
        w.config.hostname]
  unwarned : ∀ wait, outcome = .retrying wait → deeds.any (·.refuses) = false →
    deeds.filterMap (·.event?) = []
  parted : outcome = .gaveUp → ∃ now p e,
    .decided p (.error e) ∈ deeds ∧ deeds.filterMap (·.event?) =
      [.aboutPod now p Event.fatalType failedReason
        ("Scheduler will not retry scheduling; Reason: " ++ e.message) w.config.hostname]
  unnoticed : (∀ wait, outcome ≠ .retrying wait) → outcome ≠ .gaveUp →
    deeds.filterMap (·.event?) = []
  launched : ∀ node victim, outcome = .preempting node victim → ∃ job victimKey,
    decodeMessage ScheduleRequest.read? w.config.receiveQueue body = .ok job.request ∧
    deeds.filterMap (·.launching?) = [job] ∧ job.node = node ∧
    WorkloadKey.ofPod job.victim = .ok victimKey ∧ victimKey.text = victim
  unlaunched : (∀ node victim, outcome ≠ .preempting node victim) →
    deeds.filterMap (·.launching?) = []

variable {w : Worker} {body : Body} {deeds : List Deed} {outcome : Outcome}
  {r : ScheduleRequest} {key : WorkloadKey} {p : Pod}

/-! ### Courses to an outcome, from their end -/

theorem course_finished {result : Except ServiceError Outcome}
    (h : Course w.next (.finished result) deeds (.finished (.ok outcome))) :
    deeds = [] ∧ result = .ok outcome := by
  cases h with
  | stay => exact ⟨rfl, rfl⟩
  | step now hdoes => cases hdoes

theorem course_publishing
    (h : Course w.next (.publishing r) deeds (.finished (.ok outcome))) :
    deeds = [w.puts r] ∧ outcome = .retrying r.lastBackoff := by
  cases h with
  | step now hdoes hrest =>
    cases hdoes with
    | send answer =>
      cases answer with
      | ok _ =>
        obtain ⟨rfl, heq⟩ := course_finished hrest
        cases heq
        exact ⟨rfl, rfl⟩
      | error e => cases (course_finished hrest).2

theorem course_warning (h : Course w.next (.warning r p) deeds (.finished (.ok outcome))) :
    ∃ now answer, deeds =
      [.called (w.event now p Event.warningType (retryNotice r)) answer, w.puts r] ∧
      outcome = .retrying r.lastBackoff := by
  cases h with
  | step now hdoes hrest =>
    cases hdoes with
    | call answer =>
      obtain ⟨rfl, rfl⟩ := course_publishing hrest
      exact ⟨now, answer, rfl, rfl⟩

def IsMarking : RequestPhase → Prop
  | .markReading _ _ | .markWriting _ _ _ | .markResting _ _ _ => True
  | .finished result => result = .ok .gaveUp
  | _ => False

theorem isMarking_settleMark (s : RetryState) (answer : Except ClusterError Unit) :
    IsMarking (w.settleMark key s answer) := by
  unfold settleMark
  split
  · rfl
  · trivial

theorem isMarking_does {now : Timestamp} {phase after : RequestPhase} {deed : Deed}
    (h : IsMarking phase) (hdoes : (w.next now phase).Does deed after) :
    deed.marks = true ∧ IsMarking after := by
  cases phase with
  | markReading key s =>
    cases hdoes with
    | call answer =>
      cases answer with
      | ok p => exact ⟨rfl, trivial⟩
      | error e => exact ⟨rfl, isMarking_settleMark s _⟩
  | markWriting key s p =>
    cases hdoes with
    | call answer => exact ⟨rfl, isMarking_settleMark s _⟩
  | markResting key s d =>
    cases hdoes with
    | sleep => exact ⟨rfl, trivial⟩
  | finished result => cases hdoes
  | _ => exact h.elim

theorem course_marking {phase : RequestPhase} (hphase : IsMarking phase)
    (h : Course w.next phase deeds (.finished (.ok outcome))) :
    (∀ deed ∈ deeds, deed.marks = true) ∧ outcome = .gaveUp := by
  -- On the course, since reading, writing and resting follow each other any number of times.
  generalize hend : RequestPhase.finished (.ok outcome) = last at h
  induction h with
  | stay =>
    subst hend
    cases hphase
    exact ⟨fun deed hdeed ↦ absurd hdeed List.not_mem_nil, rfl⟩
  | step now hdoes _ ih =>
    obtain ⟨hdeed, hafter⟩ := isMarking_does hphase hdoes
    obtain ⟨hrest, houtcome⟩ := ih hafter hend
    exact ⟨List.forall_mem_cons.2 ⟨hdeed, hrest⟩, houtcome⟩

theorem course_partingNotice {reason : String}
    (h : Course w.next (.partingNotice p reason) deeds (.finished (.ok outcome))) :
    ∃ now answer marking, deeds =
      .called (w.event now p Event.fatalType (partingText reason)) answer :: marking ∧
      (∀ deed ∈ marking, deed.marks = true) ∧ outcome = .gaveUp := by
  cases h with
  | step now hdoes hrest =>
    cases hdoes with
    | call answer =>
      have hmarking : IsMarking (w.beginMark p) := by
        unfold beginMark
        split
        · rfl
        · trivial
      exact ⟨now, answer, _, rfl, course_marking hmarking hrest⟩

theorem course_backOff {e : SchedulingError} (hreads : w.Reads body r key)
    (hnode : p.nodeName? = none) (hrefused : e.isUnschedulable = true)
    (h : Course w.next (w.backOff r p e.message) deeds (.finished (.ok outcome))) :
    Exit w body (.called (fetch key) (.ok p) :: .decided p (.error e) :: deeds) outcome := by
  unfold backOff at h
  split at h
  · next hlong =>
    obtain ⟨now, answer, marking, rfl, hmarking, rfl⟩ := course_partingNotice h
    exact .gaveUp now answer hreads hnode hrefused hlong hmarking
  · next hshort =>
    obtain ⟨now, answer, rfl, rfl⟩ := course_warning h
    exact .postponed now answer hreads hnode hrefused (Nat.lt_of_not_le hshort) rfl

theorem course_binding {host : String} {elapsed : Duration} (hreads : w.Reads body r key)
    (hnode : p.nodeName? = none)
    (h : Course w.next (.binding r (p.annotate r.processed elapsed) host) deeds
      (.finished (.ok outcome))) :
    Exit w body (.called (fetch key) (.ok p) :: .decided p (.ok ⟨host, none⟩) :: deeds)
      outcome := by
  cases h with
  | step now hdoes hrest =>
    cases hdoes with
    | call answer =>
      cases answer with
      | ok _ =>
        obtain ⟨rfl, heq⟩ := course_finished hrest
        cases heq
        exact .bound elapsed hreads hnode
      | error e =>
        obtain ⟨rfl, rfl⟩ := course_publishing hrest
        exact .unbound elapsed hreads hnode

theorem course_launching {host : String} {victim : Pod} {victimKey : WorkloadKey}
    {elapsed : Duration} (hreads : w.Reads body r key) (hnode : p.nodeName? = none)
    (hkey : WorkloadKey.ofPod victim = .ok victimKey)
    (h : Course w.next (.launching ⟨r, p.annotate r.processed elapsed, host, victim⟩ victimKey)
      deeds (.finished (.ok outcome))) :
    Exit w body (.called (fetch key) (.ok p) :: .decided p (.ok ⟨host, some victim⟩) :: deeds)
      outcome := by
  cases h with
  | step now hdoes hrest =>
    cases hdoes with
    | launch =>
      obtain ⟨rfl, heq⟩ := course_finished hrest
      cases heq
      exact .preempting elapsed hreads hnode hkey

theorem course_deciding (hreads : w.Reads body r key) (hnode : p.nodeName? = none)
    (h : Course w.next (.deciding r p) deeds (.finished (.ok outcome))) :
    Exit w body (.called (fetch key) (.ok p) :: deeds) outcome := by
  cases h with
  | step now hdoes hrest =>
    cases hdoes with
    | decide decision elapsed =>
      cases decision with
      | error e =>
        by_cases hrefused : e.isUnschedulable = true
        · have hnext : w.afterDecision r p (.error e) elapsed = w.backOff r p e.message :=
            if_pos hrefused
          rw [hnext] at hrest
          exact course_backOff hreads hnode hrefused hrest
        · have hother : e.isUnschedulable = false := Bool.eq_false_iff.2 hrefused
          have hnext : w.afterDecision r p (.error e) elapsed = requeue r e.message :=
            if_neg hrefused
          rw [hnext] at hrest
          obtain ⟨rfl, rfl⟩ := course_publishing hrest
          exact .undecided hreads hnode hother
      | ok decision =>
        obtain ⟨host, victim⟩ := decision
        cases victim with
        | none => exact course_binding hreads hnode hrest
        | some victim =>
          -- A victim without a key ends the attempt with an error, which is no outcome.
          dsimp only [afterDecision] at hrest
          split at hrest
          · cases (course_finished hrest).2
          · next hkey => exact course_launching hreads hnode hkey hrest

theorem course_fetching (hreads : w.Reads body r key)
    (h : Course w.next (.fetching r key) deeds (.finished (.ok outcome))) :
    Exit w body deeds outcome := by
  cases h with
  | step now hdoes hrest =>
    cases hdoes with
    | call answer =>
      cases answer with
      | ok p =>
        by_cases hplaced : p.nodeName?.isSome = true
        · simp only [afterFetch, hplaced, if_true] at hrest
          obtain ⟨rfl, heq⟩ := course_finished hrest
          cases heq
          exact .placed hreads hplaced
        · have hnode : p.nodeName? = none := by simpa using hplaced
          simp only [afterFetch, hplaced] at hrest
          exact course_deciding hreads hnode hrest
      | error e =>
        by_cases hmissing : e.isNotFound = true
        · simp only [afterFetch, hmissing, if_true] at hrest
          obtain ⟨rfl, heq⟩ := course_finished hrest
          cases heq
          exact .missing hreads hmissing
        · have hother : e.isNotFound = false := Bool.eq_false_iff.2 hmissing
          simp only [afterFetch, hother, Bool.false_eq_true, if_false] at hrest
          obtain ⟨rfl, rfl⟩ := course_publishing hrest
          exact .unfetched hreads hother

theorem exit_of_course (h : Course w.next (w.begin body) deeds (.finished (.ok outcome))) :
    Exit w body deeds outcome := by
  unfold begin at h
  split at h
  · next e hbody =>
    obtain ⟨rfl, heq⟩ := course_finished h
    cases heq
    exact .unreadable hbody
  · next r hbody =>
    split at h
    · next e hkey =>
      obtain ⟨rfl, heq⟩ := course_finished h
      cases heq
      exact .unparsable hbody hkey
    · next key hkey => exact course_fetching ⟨hbody, hkey⟩ h

/-! ### What is done on the way -/

theorem filterMap_marking {α : Type} {f : Deed → Option α} {marking : List Deed}
    (hmarking : ∀ deed ∈ marking, deed.marks = true)
    (hf : ∀ deed, deed.marks = true → f deed = none) : marking.filterMap f = [] :=
  List.filterMap_eq_nil_iff.2 fun deed hdeed ↦ hf deed (hmarking deed hdeed)

theorem not_idle {rest : List Deed} {answer : Except ClusterError Pod}
    (hreads : w.Reads body r key) (hfound : ∀ p, answer = .ok p → p.nodeName? = none)
    (hfailed : ∀ e, answer = .error e → e.isNotFound = false) :
    ¬ w.Idle body (.called (fetch key) answer :: rest) := by
  obtain ⟨hbody, hkey⟩ := hreads
  rintro (hnone | ⟨r', e, hbody', hkey'⟩ | ⟨r', key', ⟨hbody', hkey'⟩, hhead⟩)
  · exact hnone r hbody
  · cases hbody.symm.trans hbody'
    cases hkey.symm.trans hkey'
  · cases hbody.symm.trans hbody'
    cases hkey.symm.trans hkey'
    rcases hhead with ⟨e, hhead, hmissing⟩ | ⟨p, hhead, hplaced⟩
    · cases hhead
      rw [hfailed e rfl] at hmissing
      cases hmissing
    · cases hhead
      rw [hfound p rfl] at hplaced
      cases hplaced

namespace Exit

theorem retried {wait : Nat} (h : Exit w body deeds (.retrying wait)) : ∃ r text,
    decodeMessage ScheduleRequest.read? w.config.receiveQueue body = .ok r ∧
    deeds.filterMap (·.failure?) = [text] ∧
    deeds.filterMap (·.sending?) = [(w.config.backoffQueue,
      RetryRequest.encode ⟨⟨r.key, wait, r.processed, text⟩, w.config.receiveQueue⟩)] := by
  cases h with
  | unfetched hreads => exact ⟨_, _, hreads.1, rfl, rfl⟩
  | undecided hreads => exact ⟨_, _, hreads.1, rfl, rfl⟩
  | postponed now answer hreads => exact ⟨_, _, hreads.1, rfl, rfl⟩
  | unbound elapsed hreads => exact ⟨_, _, hreads.1, rfl, rfl⟩

theorem unsent (h : Exit w body deeds outcome) (hretry : ∀ wait, outcome ≠ .retrying wait) :
    deeds.filterMap (·.sending?) = [] := by
  cases h with
  | unfetched | undecided | postponed | unbound => exact absurd rfl (hretry _)
  | gaveUp now answer _ _ _ _ hmarking =>
    have hsent := filterMap_marking hmarking fun deed hdeed ↦ (Deed.of_marks hdeed).1
    exact hsent
  | _ => rfl

/-- Either nothing is to be bound, or the workload that was found without a node, and it alone. -/
theorem binds_cases (h : Exit w body deeds outcome) :
    (deeds.countP (·.isBind) = 0 ∧ ∀ node, outcome ≠ .bound node) ∨
    ∃ r key p host elapsed answer rest, w.Reads body r key ∧ p.nodeName? = none ∧
      deeds = .called (fetch key) (.ok p) :: .decided p (.ok ⟨host, none⟩) ::
        .called (.bind (p.annotate r.processed elapsed) host) answer :: rest ∧
      rest.countP (·.isBind) = 0 ∧
      ∀ node, outcome = .bound node ↔ answer = .ok () ∧ host = node := by
  cases h with
  | unreadable | unparsable | missing | placed | unfetched | undecided | postponed | preempting =>
    exact .inl ⟨rfl, fun node ↦ Outcome.noConfusion⟩
  | gaveUp now answer _ _ _ _ hmarking =>
    refine .inl ⟨?_, fun node ↦ Outcome.noConfusion⟩
    have hnone := List.countP_eq_zero.2 fun deed hdeed ↦
      Bool.eq_false_iff.1 (Deed.of_marks (hmarking deed hdeed)).2.2.2
    exact hnone
  | bound elapsed hreads hnode =>
    refine .inr ⟨_, _, _, _, elapsed, _, _, hreads, hnode, rfl, rfl, fun node ↦ ?_⟩
    exact ⟨fun heq ↦ ⟨rfl, Outcome.bound.inj heq⟩, fun heq ↦ congrArg _ heq.2⟩
  | unbound elapsed hreads hnode =>
    refine .inr ⟨_, _, _, _, elapsed, _, _, hreads, hnode, rfl, rfl, fun node ↦ ?_⟩
    exact iff_of_false Outcome.noConfusion fun heq ↦ nomatch heq.1

theorem boundOnce (h : Exit w body deeds outcome) : deeds.countP (·.isBind) ≤ 1 := by
  rcases h.binds_cases with ⟨hnone, _⟩ |
    ⟨r, key, p, host, elapsed, answer, rest, _, _, rfl, hrest, _⟩
  · rw [hnone]
    exact Nat.zero_le 1
  · rw [List.countP_cons, List.countP_cons, List.countP_cons, hrest]
    exact Nat.le_refl 1

theorem bound_iff (h : Exit w body deeds outcome) (node : String) :
    outcome = .bound node ↔ ∃ p, .called (.bind p node) (.ok ()) ∈ deeds := by
  rcases h.binds_cases with ⟨hnone, hother⟩ |
    ⟨r, key, p, host, elapsed, answer, rest, _, _, rfl, hrest, houtcome⟩
  · refine iff_of_false (hother node) ?_
    rintro ⟨p, hmem⟩
    exact List.countP_eq_zero.1 hnone _ hmem rfl
  · rw [houtcome]
    constructor
    · rintro ⟨rfl, rfl⟩
      exact ⟨_, .tail _ (.tail _ (.head _))⟩
    · rintro ⟨q, hmem⟩
      rcases hmem with _ | ⟨_, _ | ⟨_, _ | ⟨_, hmem⟩⟩⟩
      · exact ⟨rfl, rfl⟩
      · exact absurd rfl (List.countP_eq_zero.1 hrest _ hmem)

theorem unplaced (h : Exit w body deeds outcome) {p : Pod} {node : String}
    {answer : Except ClusterError Unit} (hmem : .called (.bind p node) answer ∈ deeds) :
    ∃ r key found, w.Reads body r key ∧ deeds.head? = some (.called (fetch key) (.ok found)) ∧
      found.nodeName? = none ∧ p.nodeName? = none := by
  rcases h.binds_cases with ⟨hnone, _⟩ |
    ⟨r, key, found, host, elapsed, answer', rest, hreads, hnode, rfl, hrest, _⟩
  · exact absurd rfl (List.countP_eq_zero.1 hnone _ hmem)
  · refine ⟨r, key, found, hreads, rfl, hnode, ?_⟩
    rcases hmem with _ | ⟨_, _ | ⟨_, _ | ⟨_, hmem⟩⟩⟩
    · exact hnode
    · exact absurd rfl (List.countP_eq_zero.1 hrest _ hmem)

theorem dropped_iff (h : Exit w body deeds outcome) : outcome = .dropped ↔ w.Idle body deeds := by
  cases h with
  | unreadable hbody =>
    refine iff_of_true rfl (.inl fun r hr ↦ ?_)
    cases hbody.symm.trans hr
  | unparsable hbody hkey => exact iff_of_true rfl (.inr (.inl ⟨_, _, hbody, hkey⟩))
  | missing hreads hmissing =>
    exact iff_of_true rfl (.inr (.inr ⟨_, _, hreads, .inl ⟨_, rfl, hmissing⟩⟩))
  | placed hreads hplaced =>
    exact iff_of_true rfl (.inr (.inr ⟨_, _, hreads, .inr ⟨_, rfl, hplaced⟩⟩))
  | unfetched hreads hother =>
    refine iff_of_false Outcome.noConfusion (not_idle hreads ?_ ?_)
    · rintro p ⟨⟩
    · rintro e ⟨⟩
      exact hother
  | undecided hreads hnode | postponed _ _ hreads hnode | gaveUp _ _ hreads hnode
  | bound _ hreads hnode | unbound _ hreads hnode | preempting _ hreads hnode =>
    refine iff_of_false Outcome.noConfusion (not_idle hreads ?_ ?_)
    · rintro p ⟨⟩
      exact hnode
    · rintro e ⟨⟩

theorem untouched (h : Exit w body deeds .dropped) : ∀ deed ∈ deeds, deed.isFetch = true := by
  cases h with
  | unreadable | unparsable => exact fun deed hdeed ↦ absurd hdeed List.not_mem_nil
  | missing | placed => exact List.forall_mem_singleton.2 rfl

theorem warned {wait : Nat} (h : Exit w body deeds (.retrying wait))
    (hrefused : deeds.any (·.refuses) = true) : ∃ now p e, .decided p (.error e) ∈ deeds ∧
      deeds.filterMap (·.event?) = [.aboutPod now p Event.warningType failedReason
        ("Scheduler will retry in " ++ toString wait ++ " seconds; Reason: " ++ e.message)
        w.config.hostname] := by
  cases h with
  | unfetched | unbound => cases hrefused
  | undecided _ _ hother => simp [Deed.refuses, puts, hother] at hrefused
  | postponed now answer => exact ⟨now, _, _, .tail _ (.head _), rfl⟩

theorem unwarned {wait : Nat} (h : Exit w body deeds (.retrying wait))
    (hrefused : deeds.any (·.refuses) = false) : deeds.filterMap (·.event?) = [] := by
  cases h with
  | unfetched | undecided | unbound => rfl
  | postponed now answer _ _ hverdict => simp [Deed.refuses, puts, hverdict] at hrefused

theorem parted (h : Exit w body deeds .gaveUp) : ∃ now p e, .decided p (.error e) ∈ deeds ∧
    deeds.filterMap (·.event?) = [.aboutPod now p Event.fatalType failedReason
      ("Scheduler will not retry scheduling; Reason: " ++ e.message) w.config.hostname] := by
  cases h with
  | gaveUp now answer _ _ _ _ hmarking =>
    have hevents := filterMap_marking hmarking fun deed hdeed ↦ (Deed.of_marks hdeed).2.1
    exact ⟨now, _, _, .tail _ (.head _), congrArg (_ :: ·) hevents⟩

theorem unnoticed (h : Exit w body deeds outcome) (hretry : ∀ wait, outcome ≠ .retrying wait)
    (hgaveUp : outcome ≠ .gaveUp) : deeds.filterMap (·.event?) = [] := by
  cases h with
  | unfetched | undecided | postponed | unbound => exact absurd rfl (hretry _)
  | gaveUp => exact absurd rfl hgaveUp
  | _ => rfl

theorem launched {node victim : String} (h : Exit w body deeds (.preempting node victim)) :
    ∃ job victimKey,
      decodeMessage ScheduleRequest.read? w.config.receiveQueue body = .ok job.request ∧
      deeds.filterMap (·.launching?) = [job] ∧ job.node = node ∧
      WorkloadKey.ofPod job.victim = .ok victimKey ∧ victimKey.text = victim := by
  cases h with
  | preempting elapsed hreads _ hkey => exact ⟨_, _, hreads.1, rfl, rfl, hkey, rfl⟩

theorem unlaunched (h : Exit w body deeds outcome)
    (hpreempting : ∀ node victim, outcome ≠ .preempting node victim) :
    deeds.filterMap (·.launching?) = [] := by
  cases h with
  | preempting => exact absurd rfl (hpreempting _ _)
  | gaveUp now answer _ _ _ _ hmarking =>
    have hlaunched := filterMap_marking hmarking fun deed hdeed ↦ (Deed.of_marks hdeed).2.2.1
    exact hlaunched
  | _ => rfl

/-- Whatever is answered and decided on the way, every outcome is accounted for. -/
theorem accounted (h : Exit w body deeds outcome) : Accounted w body deeds outcome where
  retried := by
    rintro wait rfl
    exact h.retried
  unsent := h.unsent
  boundOnce := h.boundOnce
  bound := h.bound_iff
  unplaced _ _ _ hmem := h.unplaced hmem
  dropped := h.dropped_iff
  untouched := by
    rintro rfl
    exact h.untouched
  warned := by
    rintro wait rfl
    exact h.warned
  unwarned := by
    rintro wait rfl
    exact h.unwarned
  parted := by
    rintro rfl
    exact h.parted
  unnoticed := h.unnoticed
  launched := by
    rintro node victim rfl
    exact h.launched
  unlaunched := h.unlaunched

end Exit

end Worker

end PodPlacement
