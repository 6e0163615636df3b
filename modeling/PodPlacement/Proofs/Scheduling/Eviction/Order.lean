import PodPlacement.Proofs.Scheduling.Eviction.Course
import PodPlacement.Proofs.Scheduling.Retry

/-!
The order that an eviction keeps to: nothing is deleted before the node is reserved, nothing is
placed before the victim is gone, and no failure is reported before a release was tried.
-/

namespace PodPlacement.Evictor

variable {x : Evictor} {e : Eviction} {trace : List Answered}

/-! ### Updates of the node -/

def Quiet (a : Answered) : Prop := a.1.deletes = false ∧ a.1.binds = false

theorem Attempt.quiet {u : NodeUpdate} {outcome : Except ClusterError Bool}
    (h : Attempt e u trace outcome) : ∀ a ∈ trace, Quiet a := by
  intro a ha
  cases h with
  | unread cause =>
    rcases List.mem_singleton.1 ha with rfl
    exact ⟨rfl, rfl⟩
  | unchanged n now _ =>
    rcases List.mem_singleton.1 ha with rfl
    exact ⟨rfl, rfl⟩
  | written n changed now answer _ =>
    rcases List.mem_cons.1 ha with rfl | ha
    · exact ⟨rfl, rfl⟩
    · rcases List.mem_singleton.1 ha with rfl
      exact ⟨rfl, rfl⟩

theorem Attempts.quiet {u : NodeUpdate} {s : RetryState} {result : Except SchedulingError Bool}
    (h : Attempts x e u s trace result) : ∀ a ∈ trace, Quiet a := by
  induction h with
  | last hattempt _ => exact hattempt.quiet
  | again hattempt _ _ ih =>
    intro a ha
    rcases List.mem_append.1 ha with ha | ha
    · exact hattempt.quiet a ha
    · exact ih a ha

theorem Released.quiet {result : Except SchedulingError Unit} (h : Released x e result trace) :
    ∀ a ∈ trace, Quiet a := by
  obtain ⟨_, hattempts⟩ := h
  exact hattempts.quiet

def reservationCondition (e : Eviction) (now : Timestamp) : NodeCondition :=
  { type := Node.preemptionType, status := "True", reason := some e.reservation,
    message := some e.victimKey.text, changed := some now }

/-- A node was read, and what was accepted is that node with the condition for the victim added. -/
def Reserved (e : Eviction) (trace : List Answered) : Prop :=
  ∃ n now stored, ⟨.getNode e.host, .ok n⟩ ∈ trace ∧
    ⟨.updateNodeStatus (n.withConditions (n.conditions ++ [reservationCondition e now])),
      .ok stored⟩ ∈ trace

theorem Reserved.mono {trace' : List Answered} (h : Reserved e trace) (hsub : trace ⊆ trace') :
    Reserved e trace' := by
  obtain ⟨n, now, stored, hread, hwrite⟩ := h
  exact ⟨n, now, stored, hsub hread, hsub hwrite⟩

theorem edit_reserve {n changed : Node} {now : Timestamp}
    (h : edit e now .reserve n = some changed) :
    changed = n.withConditions (n.conditions ++ [reservationCondition e now]) := by
  simp only [edit, Node.reserve?] at h
  split at h
  · cases h
  · exact (Option.some.inj h).symm

theorem Attempt.reserved (h : Attempt e .reserve trace (.ok true)) : Reserved e trace := by
  generalize houtcome : Except.ok true = outcome at h
  cases h with
  | unread cause => cases houtcome
  | unchanged n now _ => cases houtcome
  | written n changed now answer hedit =>
    cases answer with
    | error cause => cases houtcome
    | ok stored =>
      refine ⟨n, now, stored, List.mem_cons_self .., ?_⟩
      rw [← edit_reserve hedit]
      exact List.mem_cons_of_mem _ (List.mem_cons_self ..)

theorem Attempts.reserved {s : RetryState} (h : Attempts x e .reserve s trace (.ok true)) :
    Reserved e trace := by
  generalize hresult : Except.ok true = result at h
  induction h with
  | last hattempt hjudge =>
    subst hresult
    rw [RetryConfig.judge_ok hjudge] at hattempt
    exact hattempt.reserved
  | again _ _ _ ih => exact (ih hresult).mono (List.subset_append_right _ _)

/-- An attempt fails by the answer to its last call. -/
theorem Attempt.failed {u : NodeUpdate} {cause : ClusterError}
    (h : Attempt e u trace (.error cause)) :
    ∃ before c, trace = before ++ [⟨c, .error cause⟩] := by
  generalize houtcome : Except.error cause = outcome at h
  cases h with
  | unread cause =>
    cases houtcome
    exact ⟨[], _, rfl⟩
  | unchanged n now _ => cases houtcome
  | written n changed now answer _ =>
    cases answer with
    | error cause =>
      cases houtcome
      exact ⟨[⟨.getNode e.host, .ok n⟩], _, rfl⟩
    | ok stored => cases houtcome

theorem Attempts.failed {u : NodeUpdate} {s : RetryState} {failure : SchedulingError}
    (h : Attempts x e u s trace (.error failure)) :
    failure = .retriesExhausted (operation u) x.retry.attempts ∨
      ∃ cause before c, cause.isConflict = false ∧ failure = .cluster cause ∧
        trace = before ++ [⟨c, .error cause⟩] := by
  generalize hresult : Except.error failure = result at h
  induction h with
  | last hattempt hjudge =>
    subst hresult
    rcases RetryConfig.judge_error hjudge with rfl | ⟨cause, rfl, hconflict, rfl⟩
    · exact .inl rfl
    · obtain ⟨before, c, rfl⟩ := hattempt.failed
      exact .inr ⟨cause, before, c, hconflict, rfl, rfl⟩
  | again _ _ _ ih =>
    rcases ih hresult with hexhausted | ⟨cause, before, c, hconflict, hcause, rfl⟩
    · exact .inl hexhausted
    · exact .inr ⟨cause, _, c, hconflict, hcause, (List.append_assoc ..).symm⟩

/-! ### After the reservation -/

variable {result : Except SchedulingError Unit}

/-- The calls end with attempts to release the node, and a result that is no success is reported as
a failed eviction. -/
def EndsReleased (x : Evictor) (e : Eviction) (trace : List Answered)
    (result : Except SchedulingError Unit) : Prop :=
  (∃ acts releasing, trace = acts ++ releasing ∧ Released x e result releasing) ∧
    (result = .ok () ∨ ∃ cause, result = .error (e.failure cause))

theorem EndsReleased.cons {a : Answered} (h : EndsReleased x e trace result) :
    EndsReleased x e (a :: trace) result := by
  obtain ⟨⟨acts, releasing, rfl, hreleased⟩, hresult⟩ := h
  exact ⟨⟨a :: acts, releasing, rfl, hreleased⟩, hresult⟩

theorem Placed.endsReleased (h : Placed x e trace result) : EndsReleased x e trace result := by
  cases h with
  | bound hreleased => exact ⟨⟨[_], _, rfl, hreleased⟩, .inl rfl⟩
  | refused cause hreleased => exact ⟨⟨[_], _, rfl, hreleased⟩, .inr ⟨_, rfl⟩⟩

theorem Awaited.endsReleased (h : Awaited x e trace result) : EndsReleased x e trace result := by
  induction h with
  | gone _ hplaced => exact hplaced.endsReleased.cons
  | present _ _ ih => exact ih.cons

theorem Evicted.endsReleased (h : Evicted x e trace result) : EndsReleased x e trace result := by
  cases h with
  | removed _ hawaited => exact hawaited.endsReleased.cons
  | refused cause _ hreleased => exact ⟨⟨[_], _, rfl, hreleased⟩, .inr ⟨_, rfl⟩⟩

/-- The pod is bound by the first call, and no later one deletes or binds. -/
theorem Placed.shape (h : Placed x e trace result) :
    ∃ answer later, trace = ⟨.bind e.preemptor e.host, answer⟩ :: later ∧
      (result = .ok () ↔ answer = .ok ()) ∧ ∀ a ∈ later, Quiet a := by
  cases h with
  | bound hreleased =>
    exact ⟨.ok (), _, rfl, iff_of_true rfl rfl, hreleased.quiet⟩
  | refused cause hreleased =>
    exact ⟨.error cause, _, rfl, iff_of_false nofun nofun, hreleased.quiet⟩

/-- The wait ends with a look that finds the victim gone, and then the pod is bound. -/
theorem Awaited.shape (h : Awaited x e trace result) :
    ∃ looks answer placing, trace = looks ++ placing ∧ (∀ a ∈ looks, Quiet a) ∧
      ⟨.getWorkload e.victimKey.space e.victimKey.name, answer⟩ ∈ looks ∧ Gone e.victim answer ∧
      Placed x e placing result := by
  induction h with
  | @gone answer trace result hgone hplaced =>
    refine ⟨[_], answer, trace, rfl, fun a ha ↦ ?_, List.mem_cons_self .., hgone, hplaced⟩
    rcases List.mem_singleton.1 ha with rfl
    exact ⟨rfl, rfl⟩
  | present _ _ ih =>
    obtain ⟨looks, answer, placing, rfl, hquiet, hmem, hgone, hplaced⟩ := ih
    refine ⟨_ :: looks, answer, placing, rfl, fun a ha ↦ ?_, List.mem_cons_of_mem _ hmem, hgone,
      hplaced⟩
    rcases List.mem_cons.1 ha with rfl | ha
    · exact ⟨rfl, rfl⟩
    · exact hquiet a ha

/-- Either the victim cannot be deleted and nothing is bound, or it is deleted, found gone, and the
pod is bound after that. -/
theorem Evicted.shape (h : Evicted x e trace result) :
    ∃ removal later, trace = ⟨.deleteWorkload e.victimKey.space e.victimKey.name x.deleteOptions,
        removal⟩ :: later ∧
      ((¬ Removes removal ∧ result ≠ .ok () ∧ ∀ a ∈ later, Quiet a) ∨
        Removes removal ∧ ∃ looks answer placement last,
          later = looks ++ ⟨.bind e.preemptor e.host, placement⟩ :: last ∧
          (∀ a ∈ looks, Quiet a) ∧
          ⟨.getWorkload e.victimKey.space e.victimKey.name, answer⟩ ∈ looks ∧
          Gone e.victim answer ∧ (result = .ok () ↔ placement = .ok ()) ∧
          ∀ a ∈ last, Quiet a) := by
  cases h with
  | removed hremoves hawaited =>
    obtain ⟨looks, answer, placing, rfl, hquiet, hmem, hgone, hplaced⟩ := hawaited.shape
    obtain ⟨placement, last, rfl, hresult, hlast⟩ := hplaced.shape
    exact ⟨_, _, rfl, .inr ⟨hremoves, looks, answer, placement, last, rfl, hquiet, hmem, hgone,
      hresult, hlast⟩⟩
  | refused cause hkept hreleased =>
    exact ⟨_, _, rfl, .inl ⟨hkept, nofun, hreleased.quiet⟩⟩

theorem Evicted.ok_iff (h : Evicted x e trace result) :
    result = .ok () ↔
      (∃ answer, ⟨.deleteWorkload e.victimKey.space e.victimKey.name x.deleteOptions, answer⟩ ∈
        trace ∧ Removes answer) ∧
      ⟨.bind e.preemptor e.host, .ok ()⟩ ∈ trace := by
  obtain ⟨removal, later, rfl, ⟨hkept, hfailed, hquiet⟩ |
    ⟨hremoves, looks, answer, placement, last, rfl, hlooks, _, _, hresult, hlast⟩⟩ := h.shape
  · refine iff_of_false hfailed ?_
    rintro ⟨⟨answer, hmem, hremoves⟩, _⟩
    rcases List.mem_cons.1 hmem with heq | hmem
    · cases heq
      exact hkept hremoves
    · exact Bool.noConfusion (hquiet _ hmem).1
  · rw [hresult]
    constructor
    · rintro rfl
      exact ⟨⟨removal, List.mem_cons_self .., hremoves⟩, List.mem_cons_of_mem _
        (List.mem_append_right _ (List.mem_cons_self ..))⟩
    · rintro ⟨_, hmem⟩
      rcases List.mem_cons.1 hmem with heq | hmem
      · cases heq
      rcases List.mem_append.1 hmem with hmem | hmem
      · exact Bool.noConfusion (hlooks _ hmem).2
      rcases List.mem_cons.1 hmem with heq | hmem
      · cases heq
        rfl
      · exact Bool.noConfusion (hlast _ hmem).2

/-- After a deletion, a look at the victim's key showed that the victim is gone. -/
def FoundGone (e : Eviction) (trace : List Answered) : Prop :=
  ∃ earlier deletion later answer, trace = earlier ++ deletion :: later ∧
    deletion.1.deletes = true ∧
    ⟨.getWorkload e.victimKey.space e.victimKey.name, answer⟩ ∈ later ∧ Gone e.victim answer

section

variable {held rest : List Answered} (hheld : ∀ a ∈ held, Quiet a)
  (hevicted : Evicted x e rest result)

include hheld hevicted

theorem Evicted.deletes_once : (held ++ rest).countP (·.1.deletes) ≤ 1 ∧
    ∀ before a after, held ++ rest = before ++ a :: after → a.1.deletes = true → before = held := by
  obtain ⟨removal, later, rfl, hlater⟩ := hevicted.shape
  have hkept : ∀ a ∈ later, a.1.deletes = false := by
    intro a ha
    rcases hlater with ⟨_, _, hquiet⟩ | ⟨_, looks, _, _, last, rfl, hlooks, _, _, _, hlast⟩
    · exact (hquiet a ha).1
    · rcases List.mem_append.1 ha with ha | ha
      · exact (hlooks a ha).1
      · rcases List.mem_cons.1 ha with rfl | ha
        · rfl
        · exact (hlast a ha).1
  refine ⟨countP_append_cons_le_one (fun a ha ↦ (hheld a ha).1) hkept,
    fun before a after hsplit hdeletes ↦ ?_⟩
  exact (append_cons_unique (p := fun a ↦ a.1.deletes) (fun a ha ↦ (hheld a ha).1) hkept
    hdeletes hsplit).1

theorem Evicted.binds_once : (held ++ rest).countP (·.1.binds) ≤ 1 ∧
    ∀ before a after, held ++ rest = before ++ a :: after → a.1.binds = true →
      FoundGone e before := by
  obtain ⟨removal, later, rfl, ⟨_, _, hquiet⟩ |
    ⟨_, looks, answer, placement, last, rfl, hlooks, hmem, hgone, _, hlast⟩⟩ := hevicted.shape
  · have hnone : ∀ a ∈ held ++ ⟨_, removal⟩ :: later, a.1.binds = false := by
      intro a ha
      rcases List.mem_append.1 ha with ha | ha
      · exact (hheld a ha).2
      · rcases List.mem_cons.1 ha with rfl | ha
        · rfl
        · exact (hquiet a ha).2
    exact once_of_none hnone _
  · let removal : Answered :=
      ⟨.deleteWorkload e.victimKey.space e.victimKey.name x.deleteOptions, removal⟩
    have hearlier : ∀ a ∈ held ++ removal :: looks, a.1.binds = false := by
      intro a ha
      rcases List.mem_append.1 ha with ha | ha
      · exact (hheld a ha).2
      · rcases List.mem_cons.1 ha with rfl | ha
        · rfl
        · exact (hlooks a ha).2
    have hlast' : ∀ a ∈ last, a.1.binds = false := fun a ha ↦ (hlast a ha).2
    have hassoc : held ++ removal :: (looks ++ ⟨.bind e.preemptor e.host, placement⟩ :: last) =
        (held ++ removal :: looks) ++ ⟨.bind e.preemptor e.host, placement⟩ :: last := by
      rw [List.append_assoc, List.cons_append]
    rw [hassoc]
    refine ⟨countP_append_cons_le_one hearlier hlast', fun before a after hsplit hbinds ↦ ?_⟩
    obtain ⟨rfl, _, _⟩ :=
      append_cons_unique (p := fun a ↦ a.1.binds) hearlier hlast' hbinds hsplit
    exact ⟨held, removal, looks, answer, rfl, rfl, hmem, hgone⟩

end

/-- Without a reservation nothing more is called. -/
theorem Ends.unreserved {outcome : Except SchedulingError Bool} {rest : List Answered}
    (h : Ends x e result .reserve outcome rest) (hne : outcome ≠ .ok true) :
    rest = [] ∧ ((outcome = .ok false ∧ result = .error e.alreadyReserved) ∨
      ∃ failure, outcome = .error failure ∧ result = .error failure) := by
  match outcome, h with
  | .ok true, _ => exact absurd rfl hne
  | .ok false, ⟨hrest, hresult⟩ => exact ⟨hrest, .inl ⟨rfl, hresult⟩⟩
  | .error failure, ⟨hrest, hresult⟩ => exact ⟨hrest, .inr ⟨failure, rfl, hresult⟩⟩

/-- However the orchestrator answers, a finished eviction keeps to its order: the node is reserved,
the victim deleted and found gone, the pod bound and the node released. Where the reservation fails
it ends there, and where a later call fails it still tries the release. -/
theorem eviction_order {host : String} {preemptor victim : Pod}
    (he : Eviction.ofPods host preemptor victim = .ok e)
    (hrun : Run (x.next e) x.begin trace (.finished result)) :
    trace.countP (·.1.deletes) ≤ 1 ∧
    (∀ before a after, trace = before ++ a :: after → a.1.deletes = true → Reserved e before) ∧
    trace.countP (·.1.binds) ≤ 1 ∧
    (∀ before a after, trace = before ++ a :: after → a.1.binds = true → FoundGone e before) ∧
    ∃ held rest outcome, trace = held ++ rest ∧
      Attempts x e .reserve x.retry.start held outcome ∧
      (result = .ok () ↔ outcome = .ok true ∧
        (∃ answer, ⟨.deleteWorkload e.victimKey.space e.victimKey.name x.deleteOptions, answer⟩ ∈
          rest ∧ Removes answer) ∧
        ⟨.bind preemptor host, .ok ()⟩ ∈ rest) ∧
      (outcome ≠ .ok true → rest = [] ∧ (∀ a ∈ trace, Quiet a) ∧
        ((∃ why, result = .error (.preemptionExhausted e.preemptorKey.text why)) ∨
          (∃ operation, result = .error (.retriesExhausted operation x.retry.attempts)) ∨
          ∃ cause before c, cause.isConflict = false ∧ result = .error (.cluster cause) ∧
            trace = before ++ [⟨c, .error cause⟩])) ∧
      (outcome = .ok true → result ≠ .ok () →
        (∃ detail, result = .error
          (.preemptionFailed e.preemptorKey.text e.victimKey.text host detail)) ∧
        ∃ acts releasing, rest = acts ++ releasing ∧ Released x e result releasing) := by
  have hpods : e.host = host ∧ e.preemptor = preemptor := by
    unfold Eviction.ofPods at he
    split at he <;> cases he
    exact ⟨rfl, rfl⟩
  obtain ⟨rfl, rfl⟩ := hpods
  obtain ⟨held, rest, outcome, rfl, hattempts, hends⟩ := updates_of_run hrun
  by_cases houtcome : outcome = .ok true
  · subst houtcome
    have hevicted : Evicted x e rest result := hends
    obtain ⟨hdeletes, hafter⟩ := hevicted.deletes_once hattempts.quiet
    obtain ⟨hbinds, hgone⟩ := hevicted.binds_once hattempts.quiet
    refine ⟨hdeletes, fun before a after hsplit ha ↦ ?_, hbinds, hgone, held, rest, .ok true, rfl,
      hattempts, ?_, fun hne ↦ absurd rfl hne, fun _ hfailed ↦ ?_⟩
    · rw [hafter before a after hsplit ha]
      exact hattempts.reserved
    · rw [hevicted.ok_iff]
      exact (and_iff_right rfl).symm
    · obtain ⟨hreleased, hok | ⟨cause, hcause⟩⟩ := hevicted.endsReleased
      · exact absurd hok hfailed
      · exact ⟨⟨_, hcause⟩, hreleased⟩
  · obtain ⟨rfl, hwhy⟩ := hends.unreserved houtcome
    have hquiet : ∀ a ∈ held ++ [], Quiet a := by
      rw [List.append_nil]
      exact hattempts.quiet
    obtain ⟨hdeletes, hreserved⟩ := once_of_none (fun a ha ↦ (hquiet a ha).1) (Reserved e)
    obtain ⟨hbinds, hgone⟩ := once_of_none (fun a ha ↦ (hquiet a ha).2) (FoundGone e)
    have hfailed : result ≠ .ok () := by
      rcases hwhy with ⟨_, rfl⟩ | ⟨failure, _, rfl⟩
      · exact nofun
      · exact nofun
    refine ⟨hdeletes, hreserved, hbinds, hgone, held, [], outcome, rfl, hattempts,
      iff_of_false hfailed fun h ↦ houtcome h.1, fun _ ↦ ⟨rfl, hquiet, ?_⟩,
      fun h ↦ absurd h houtcome⟩
    rcases hwhy with ⟨_, hresult⟩ | ⟨failure, rfl, hresult⟩
    · exact .inl ⟨_, hresult⟩
    · rw [List.append_nil]
      rcases hattempts.failed with rfl | ⟨cause, before, c, hconflict, rfl, hlast⟩
      · exact .inr (.inl ⟨_, hresult⟩)
      · exact .inr (.inr ⟨cause, before, c, hconflict, hresult, hlast⟩)

/-- The first update conflicts, the victim is gone already, the first look for it fails, and so does
the release; the pod is bound all the same. -/
theorem eviction_order_troubled :
    let x : Evictor := { settings := {}, retry := {} }
    let e : Eviction :=
      { host := "n1", preemptor := { metadata := { name := some "urgent" } },
        victim := { metadata := { name := some "settled" } },
        preemptorKey := ⟨"default", "urgent"⟩, victimKey := ⟨"default", "settled"⟩ }
    ∃ trace, Eviction.ofPods "n1" e.preemptor e.victim = .ok e ∧
      Run (x.next e) x.begin trace (.finished (.ok ())) ∧ trace.length = 9 ∧
      trace.countP (·.1.deletes) ≤ 1 ∧ trace.countP (·.1.binds) ≤ 1 ∧
      ∃ held, held <+: trace ∧ Attempts x e .reserve x.retry.start held (.ok true) := by
  intro x e
  let changed : Node := ({} : Node).withConditions [reservationCondition e default]
  let trace : List Answered :=
    [⟨.getNode "n1", .ok {}⟩, ⟨.updateNodeStatus changed, .error (.conflict "n1" "stale")⟩,
      ⟨.getNode "n1", .ok {}⟩, ⟨.updateNodeStatus changed, .ok changed⟩,
      ⟨.deleteWorkload "default" "settled" x.deleteOptions, .error (.notFound "settled")⟩,
      ⟨.getWorkload "default" "settled", .error (.transport "down")⟩,
      ⟨.getWorkload "default" "settled", .error (.notFound "settled")⟩,
      ⟨.bind e.preemptor "n1", .ok ()⟩, ⟨.getNode "n1", .error (.transport "down")⟩]
  have hrun : Run (x.next e) x.begin trace (.finished (.ok ())) :=
    .call default _ rfl <| .call default _ rfl <| .sleep default rfl <| .call default _ rfl <|
      .call default _ rfl <| .call default _ rfl <| .call default _ rfl <| .sleep default rfl <|
      .call default _ rfl <| .call default _ rfl <| .call default _ rfl <| .stay _
  have hpods : Eviction.ofPods "n1" e.preemptor e.victim = .ok e := rfl
  obtain ⟨hdeletes, _, hbinds, _, held, rest, outcome, heq, hattempts, hok, _⟩ :=
    eviction_order hpods hrun
  obtain ⟨rfl, _⟩ := hok.1 rfl
  exact ⟨trace, hpods, hrun, rfl, hdeletes, hbinds, held, ⟨rest, heq.symm⟩, hattempts⟩

end PodPlacement.Evictor
