import PodPlacement.Proofs.Service.Execution
import PodPlacement.Proofs.Simulation.Activities

/-!
The loop of a worker in any world: it takes one message after the other from its queue, does what
each of them asks for, and acknowledges it once it has come to an outcome.
-/

namespace PodPlacement

namespace World

inductive Performs (w : World) : Deed → World → Prop
  | call (c : Call) : Performs w (.called c (w.call c).1) (w.call c).2
  | decide (p : Pod) : Performs w (.decided p (w.decide p).1) (w.decide p).2.2
  | send (queue : String) (body : Body) :
      Performs w (.sent queue body (w.send queue body).1) (w.send queue body).2
  | launch (job : PreemptionJob) :
      Performs w (.launched job) (w.spawn (.preempting job (job.begin w.worker))).2
  | sleep (d : Delay) : Performs w (.slept d) (w.pickDelay d).2

theorem act_performs {σ : Type} (w : World) (wrap : σ → Activity) (final : Activity)
    (action : ServiceAction σ) : action = .done ∨ ∃ deed after w' move,
      w.act wrap final action = (w', wrap after, move) ∧ action.Does deed after ∧
      w.Performs deed w' := by
  cases action with
  | call c resume => exact .inr ⟨_, _, _, _, rfl, .call _, .call c⟩
  | decide p resume => exact .inr ⟨_, _, _, _, rfl, .decide _ _, .decide p⟩
  | send queue body resume => exact .inr ⟨_, _, _, _, rfl, .send _, .send queue body⟩
  | launch job after => exact .inr ⟨_, _, _, _, rfl, .launch, .launch job⟩
  | sleep d after => exact .inr ⟨_, _, _, _, rfl, .sleep, .sleep d⟩
  | done => exact .inl rfl

/-! ### Deliveries in hand -/

theorem queues_call (w : World) (c : Call) : (w.call c).2.queues = w.queues := by
  unfold World.call
  split
  · rfl
  · dsimp only
    split <;> rfl

theorem queues_decide (w : World) (p : Pod) : (w.decide p).2.2.queues = w.queues := by
  unfold World.decide
  dsimp only

theorem queues_pickDelay (w : World) (d : Delay) : (w.pickDelay d).2.queues = w.queues := by
  unfold pickDelay
  split
  rfl

theorem queues_wake (w : World) (id : Nat) : (w.wake id).queues = w.queues := by
  unfold wake
  split <;> rfl

theorem queues_foldl_wake {α : Type} (task : α → Nat) (xs : List α) (w : World) :
    (xs.foldl (fun w x ↦ w.wake (task x)) w).queues = w.queues := by
  induction xs generalizing w with
  | nil => rfl
  | cons x xs ih => rw [List.foldl_cons, ih, queues_wake]

/-- Nothing that a service does acknowledges a delivery or lays one down. -/
theorem Performs.keeps_deliveries {w w' : World} {deed : Deed} (h : w.Performs deed w')
    (name : String) : (w'.queues.queue name).held = (w.queues.queue name).held ∧
      (w'.queues.queue name).acked = (w.queues.queue name).acked := by
  cases h with
  | call c =>
    rw [queues_call]
    exact ⟨rfl, rfl⟩
  | decide p =>
    rw [queues_decide]
    exact ⟨rfl, rfl⟩
  | launch job => exact ⟨rfl, rfl⟩
  | sleep d =>
    rw [queues_pickDelay]
    exact ⟨rfl, rfl⟩
  | send queue body =>
    by_cases hgone : (w.queues.queue queue).consumer = .gone
    · rw [send_refused hgone]
      exact ⟨rfl, rfl⟩
    · have hsend := (Queues.send_eq w.queues queue body).resolve_left fun h ↦ hgone h.1
      rw [send_accepted hgone, queues_foldl_wake, hsend.2, Queues.queue_insert]
      split
      · next heq =>
        rw [heq]
        exact ⟨rfl, rfl⟩
      · exact ⟨rfl, rfl⟩

theorem acked_settleDelivery {w : World} {d : Delivery} {name : String} {number : Nat}
    (hsource : d.source = some (name, number)) (hheld : number ∈ (w.queues.queue name).held)
    (result : Except ServiceError Outcome) :
    ((w.settleDelivery d result).queues.queue name).acked = (w.queues.queue name).acked + 1 ↔
      ∃ outcome, result = .ok outcome := by
  cases result with
  | ok outcome =>
    refine iff_of_true ?_ ⟨outcome, rfl⟩
    change ((w.queues.acknowledge d).queue name).acked = _
    rw [Queues.acknowledge, hsource]
    dsimp only
    rw [Queues.queue_insert, if_pos rfl, Queue.acknowledge,
      if_pos (List.contains_iff_mem.2 hheld)]
  | error e =>
    refine iff_of_false ?_ ?_
    · change ((w.queues.release d).queue name).acked ≠ _
      rw [Queues.release, hsource]
      dsimp only
      rw [Queues.queue_insert, if_pos rfl]
      exact (Nat.succ_ne_self _).symm
    · rintro ⟨outcome, heq⟩
      cases heq

end World

namespace Worker

variable {worker : Worker} {w : World}

theorem stepWorker_working (w : World) (cancelled : Bool) (d : Delivery) (phase : RequestPhase) :
    (∃ result, phase = .finished result ∧ w.stepWorker cancelled (some (d, phase)) =
      (w.settleDelivery d result, .working none, .keep)) ∨
    ∃ deed after w' move,
      w.stepWorker cancelled (some (d, phase)) = (w', .working (some (d, after)), move) ∧
      (w.worker.next w.now phase).Does deed after ∧ w.Performs deed w' := by
  by_cases hfinished : ∃ result, phase = .finished result
  · obtain ⟨result, rfl⟩ := hfinished
    exact .inl ⟨result, rfl, rfl⟩
  · right
    have hstep : w.stepWorker cancelled (some (d, phase)) =
        w.act (fun phase ↦ .working (some (d, phase))) (.working none)
          (w.worker.next w.now phase) := by
      cases phase with
      | finished result => exact absurd ⟨result, rfl⟩ hfinished
      | _ => rfl
    have hnext : w.worker.next w.now phase ≠ .done := by
      cases phase with
      | finished result => exact absurd ⟨result, rfl⟩ hfinished
      | _ => exact fun hdone ↦ nomatch hdone
    rw [hstep]
    exact (w.act_performs _ _ _).resolve_left hnext

theorem stepWorker_idle (w : World) (cancelled : Bool) :
    (∃ d queues, w.queues.take? w.worker.config.receiveQueue = some (d, queues) ∧
      w.stepWorker cancelled none =
        ({ w with queues }, .working (some (d, w.worker.begin d.body)), .keep)) ∨
    w.stepWorker cancelled none = (w, .working none, .wait) ∨
    ∃ w' result move, w.stepWorker cancelled none = (w', .ended result, move) := by
  cases cancelled with
  | true => exact .inr (.inr ⟨_, _, _, rfl⟩)
  | false =>
    cases htake : w.queues.take? w.worker.config.receiveQueue with
    | none =>
      refine .inr (.inl ?_)
      simp only [World.stepWorker, htake, Bool.false_eq_true, if_false]
    | some taken =>
      refine .inl ⟨taken.1, taken.2, rfl, ?_⟩
      simp only [World.stepWorker, htake, Bool.false_eq_true, if_false]

/-- Turns of a worker, each with the world before and after it. What happens between them may leave
any world to the next turn, as long as the worker is the same. -/
inductive Turns (worker : Worker) : Option (Delivery × RequestPhase) → List (World × World) →
    Option (Delivery × RequestPhase) → Prop
  | stay (current : Option (Delivery × RequestPhase)) : Turns worker current [] current
  | turn {w w' : World} {cancelled : Bool} {move : World.Move}
      {current next last : Option (Delivery × RequestPhase)} {turns : List (World × World)} :
      w.worker = worker → w.stepWorker cancelled current = (w', .working next, move) →
      Turns worker next turns last → Turns worker current ((w, w') :: turns) last

def Done (turns : List (World × World)) (deeds : List Deed) : Prop :=
  List.Forall₂ (fun turn deed ↦ World.Performs turn.1 deed turn.2) turns deeds

/-- Turns of a worker put down message by message: one that takes it, one for each thing that is
done about it, and one that settles it. -/
inductive Rounds (worker : Worker) : List (World × World) →
    List (Delivery × List Deed × Except ServiceError Outcome) → Prop
  | none : Rounds worker [] []
  | idle {w : World} {turns : List (World × World)}
      {rounds : List (Delivery × List Deed × Except ServiceError Outcome)} :
      Rounds worker turns rounds → Rounds worker ((w, w) :: turns) rounds
  | handled {w v : World} {queues : Queues} {d : Delivery} {deeds : List Deed}
      {result : Except ServiceError Outcome} {working turns : List (World × World)}
      {rounds : List (Delivery × List Deed × Except ServiceError Outcome)} :
      w.queues.take? worker.config.receiveQueue = some (d, queues) →
      Course worker.next (worker.begin d.body) deeds (.finished result) → Done working deeds →
      Rounds worker turns rounds →
      Rounds worker ((w, { w with queues }) :: working ++ (v, v.settleDelivery d result) :: turns)
        ((d, deeds, result) :: rounds)

/-- What turns that end with nothing in hand do, with this in hand at first. -/
def Ahead (worker : Worker) (turns : List (World × World)) :
    Option (Delivery × RequestPhase) → Prop
  | none => ∃ rounds, Rounds worker turns rounds
  | some (d, phase) => ∃ working v rest deeds result rounds,
    turns = working ++ (v, v.settleDelivery d result) :: rest ∧
    Course worker.next phase deeds (.finished result) ∧ Done working deeds ∧
    Rounds worker rest rounds

theorem ahead_of_turn {w' : World} {cancelled : Bool} {move : World.Move}
    {current next : Option (Delivery × RequestPhase)} {turns : List (World × World)}
    (hworker : w.worker = worker)
    (hstep : w.stepWorker cancelled current = (w', .working next, move))
    (h : Ahead worker turns next) : Ahead worker ((w, w') :: turns) current := by
  subst hworker
  cases current with
  | none =>
    rcases stepWorker_idle w cancelled with ⟨d, queues, htake, heq⟩ | heq | ⟨_, _, _, heq⟩
    · cases hstep.symm.trans heq
      obtain ⟨working, v, rest, deeds, result, rounds, rfl, hcourse, hdone, hrounds⟩ := h
      exact ⟨_, .handled htake hcourse hdone hrounds⟩
    · cases hstep.symm.trans heq
      obtain ⟨rounds, hrounds⟩ := h
      exact ⟨rounds, .idle hrounds⟩
    · cases hstep.symm.trans heq
  | some held =>
    obtain ⟨d, phase⟩ := held
    rcases stepWorker_working w cancelled d phase with
      ⟨result, rfl, heq⟩ | ⟨deed, after, _, _, heq, hdoes, hperforms⟩
    · -- The turn settles the delivery: nothing is left to be done about it.
      cases hstep.symm.trans heq
      obtain ⟨rounds, hrounds⟩ := h
      exact ⟨[], w, turns, [], result, rounds, rfl, .stay _, .nil, hrounds⟩
    · cases hstep.symm.trans heq
      obtain ⟨working, v, rest, deeds, result, rounds, rfl, hcourse, hdone, hrounds⟩ := h
      exact ⟨(w, w') :: working, v, rest, deed :: deeds, result, rounds, rfl,
        .step w.now hdoes hcourse, .cons hperforms hdone, hrounds⟩

theorem ahead_of_turns {current : Option (Delivery × RequestPhase)} {turns : List (World × World)}
    (h : Turns worker current turns none) : Ahead worker turns current := by
  -- Backwards, so that each turn finds the rest of its round put down already.
  generalize hlast : (none : Option (Delivery × RequestPhase)) = last at h
  induction h with
  | stay current =>
    subst hlast
    exact ⟨[], .none⟩
  | turn hworker hstep _ ih => exact ahead_of_turn hworker hstep (ih hlast)

/-- Every outcome of a message is accounted for, whatever is answered and decided on the way. A
preemption in the background sends the request back if its eviction fails, and only then. And
whatever else happens in the world, the worker takes one message after the other, brings it to its
end, and acknowledges it if that is an outcome and not a failure. -/
theorem every_message_accounted (worker : Worker) :
    (∀ body deeds outcome,
      Course worker.next (worker.begin body) deeds (.finished (.ok outcome)) →
      worker.Accounted body deeds outcome) ∧
    (∀ (job : PreemptionJob) deeds, Course (job.next worker) (job.begin worker) deeds .finished →
      ∃ executed report result, deeds = executed ++ report ∧
        job.Executes worker (executed.filterMap (·.call?)) result ∧
        (result = .ok () → deeds.filterMap (·.sending?) = []) ∧
        ∀ cause, result = .error cause →
          deeds.filterMap (·.sending?) = [(worker.config.backoffQueue,
            RetryRequest.encode ⟨⟨job.request.key, job.request.lastBackoff,
              job.request.processed, cause.message⟩, worker.config.receiveQueue⟩)]) ∧
    (∀ turns, Turns worker none turns none → ∃ rounds, Rounds worker turns rounds) ∧
    (∀ (w w' : World) deed name, w.Performs deed w' →
      (w'.queues.queue name).held = (w.queues.queue name).held ∧
      (w'.queues.queue name).acked = (w.queues.queue name).acked) ∧
    ∀ (w : World) (d : Delivery) result name number, d.source = some (name, number) →
      number ∈ (w.queues.queue name).held →
      (((w.settleDelivery d result).queues.queue name).acked = (w.queues.queue name).acked + 1 ↔
        ∃ outcome, result = .ok outcome) := by
  refine ⟨?process, ?preempt, ?run, ?keep, ?settle⟩
  case process => exact fun body deeds outcome hcourse ↦ (exit_of_course hcourse).accounted
  case preempt => exact fun job deeds hcourse ↦ PreemptionJob.executes_and_reports hcourse
  case run => exact fun turns hturns ↦ ahead_of_turns hturns
  case keep => exact fun w w' deed name hperforms ↦ hperforms.keeps_deliveries name
  case settle =>
    exact fun w d result name number hsource hheld ↦
      World.acked_settleDelivery hsource hheld result

namespace Handled

/-! A worker that can reach no workload, a job that cannot begin, and a message that is none. -/

def plain : Worker := { config := {}, retry := {}, evictor := ⟨{}, {}⟩ }

def request : ScheduleRequest := { key := "default/web", lastBackoff := 4 }

def job : PreemptionJob where
  request
  pod := { metadata := { name := some "web" } }
  node := "n1"
  victim := {}

def world : World where
  scheduler := {
    framework := {}
    settings := {}
    usage := .fresh Usage.defaultThreshold
    random := .ofSeed 0 }
  worker := plain
  queues := (∅ : Queues).insert "corral.schedule"
    { waiting := [""], consumer := .present, sent := 1 }
  feeder := default

def delivery : Delivery := { body := "", source := some ("corral.schedule", 0) }

def taken : World :=
  { world with
    queues := (∅ : Queues).insert "corral.schedule"
      { waiting := [], consumer := .present, sent := 1, read := 1, held := [0] } }

theorem turns_world : Turns plain none
    [(world, taken), (taken, taken.settleDelivery delivery (.ok .dropped))] none := by
  have htake : world.stepWorker false none =
      (taken, .working (some (delivery, plain.begin "")), .keep) := rfl
  have hbegin : plain.begin "" = .finished (.ok .dropped) := rfl
  have hsettle : taken.stepWorker false (some (delivery, plain.begin "")) =
      (taken.settleDelivery delivery (.ok .dropped), .working none, .keep) := by
    rw [hbegin]
    rfl
  exact .turn rfl htake (.turn rfl hsettle (.stay none))

theorem course_down : Course plain.next (plain.begin request.encode)
    [.called (.getWorkload "default" "web") (.error (.transport "down")),
      plain.puts { request with message := (ClusterError.transport "down").message }]
    (.finished (.ok (.retrying 4))) := by
  have hread : request.IsRead := ⟨by decide, Nat.two_pow_pos 64, Nat.zero_lt_succ _⟩
  have hkey : WorkloadKey.parse request.key = .ok ⟨"default", "web"⟩ := rfl
  rw [begin_encode hread hkey]
  exact .step default (.call _) (.step default (.send _) (.stay _))

theorem course_job : ∃ deeds, Course (job.next plain) (job.begin plain) deeds .finished := by
  refine ⟨_, .step default (.call ?recorded) (.step default (.send (.ok ())) (.stay _))⟩
  case recorded => exact .ok ()

end Handled

open Handled in
/-- A request goes back when no workload can be reached, and so does one whose victim has no name.
A message that is no request is acknowledged. -/
theorem every_message_accounted_down : ∃ deeds reports rounds,
    Course plain.next (plain.begin request.encode) deeds (.finished (.ok (.retrying 4))) ∧
    deeds.any (·.refuses) = false ∧ deeds.filterMap (·.event?) = [] ∧
    Course (job.next plain) (job.begin plain) reports .finished ∧
    (reports.filterMap (·.sending?)).length = 1 ∧
    Rounds plain [(world, taken), (taken, taken.settleDelivery delivery (.ok .dropped))] rounds ∧
    ((taken.settleDelivery delivery (.ok .dropped)).queues.queue "corral.schedule").acked = 1 := by
  obtain ⟨hprocess, hpreempt, hrun, _, hsettle⟩ := every_message_accounted plain
  have haccounted := hprocess _ _ _ course_down
  obtain ⟨reports, hjob⟩ := course_job
  obtain ⟨_, _, result, _, hexecutes, _, hsent⟩ := hpreempt job reports hjob
  obtain ⟨rounds, hrounds⟩ := hrun _ turns_world
  refine ⟨_, reports, rounds, course_down, rfl, haccounted.unwarned 4 rfl rfl, hjob, ?_, hrounds,
    (hsettle taken delivery (.ok .dropped) "corral.schedule" 0 rfl (.head _)).2 ⟨_, rfl⟩⟩
  generalize List.filterMap _ _ = trace at hexecutes
  cases hexecutes with
  | unnamed =>
    rw [hsent _ rfl]
    rfl
  | evicted he => cases he

end Worker

end PodPlacement
