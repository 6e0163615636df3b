import Mathlib.Data.List.Nodup
import PodPlacement.Proofs.Scheduling.Eviction.Atomicity
import PodPlacement.Proofs.Scheduling.Eviction.Draft

/-!
Evictions that compete for one node. Only an update of the present version of a node is accepted, so
an accepted update does to the conditions of the node what it was meant to do, and nothing else.
-/

namespace PodPlacement

def Memory.conditionsOf (m : Memory) (name : String) : List NodeCondition :=
  ((m.cluster.nodes.get? name).map (·.conditions)).getD []

theorem Memory.Accepts.conditionsOf {m : Memory} {n stored : Node} (h : m.Accepts n stored) :
    m.conditionsOf n.name = stored.conditions := by
  unfold Memory.conditionsOf
  rw [h.present]
  rfl

theorem Memory.conditionsOf_written (m : Memory) (n stored : Node) :
    (m.bump.putNode n.name (m.written n stored)).conditionsOf n.name = n.conditions := by
  unfold Memory.conditionsOf
  rw [Memory.get?_putNode, if_pos rfl]
  exact m.conditions_written n stored

/-- Where no victim is reserved twice, one condition goes with a victim. -/
theorem Node.filter_of_nodup {victim : String} {c : NodeCondition}
    {before after : List NodeCondition} (hnodup : (victims (before ++ c :: after)).Nodup)
    (hc : c.victim? = some victim) :
    (before ++ c :: after).filter (fun d ↦ !reservesFor victim d) = before ++ after := by
  have hvictims : victims (before ++ c :: after) = victims before ++ victim :: victims after := by
    rw [victims_append]
    exact congrArg (victims before ++ ·) (List.filterMap_cons_some hc)
  rw [hvictims, List.nodup_middle, List.nodup_cons, List.mem_append, not_or] at hnodup
  exact filter_reserved hc hnodup.1.1 hnodup.1.2

structure Rival where
  evictor : Evictor
  eviction : Eviction
  phase : EvictionPhase

/-- Evictions that share an orchestrator. `held` keeps account of the reservations that were
accepted and not released since, with the condition that each put on the node; no eviction reads
it. -/
structure Contest (ι : Type) where
  memory : Memory
  rivals : ι → Rival
  held : List (ι × NodeCondition) := []

namespace Contest

variable {ι : Type} {host : String} {initial : List NodeCondition} {c c' : Contest ι}

/-- The nodes are filed properly, and what is about to be written was read from them. -/
structure Honest (c : Contest ι) : Prop where
  memory : c.memory.Sound
  drafts : ∀ i u s n, (c.rivals i).phase = .writing u s n →
    Evictor.Draft c.memory (c.rivals i).eviction u n

/-- The conditions of the node are those that it had in the beginning and those that were added and
not removed since. No victim is reserved twice. -/
structure Sound (host : String) (initial : List NodeCondition) (c : Contest ι) : Prop where
  hosts : ∀ i, (c.rivals i).eviction.host = host
  conditions : c.memory.conditionsOf host = initial ++ c.held.map (·.2)
  victims : (Node.victims (c.memory.conditionsOf host)).Nodup
  held : ∀ h ∈ c.held, (c.rivals h.1).phase.reserving = false ∧
    ∃ now, h.2 = Evictor.reservationCondition (c.rivals h.1).eviction now
  holding : ∀ i, (c.rivals i).phase.holding = true → ∃ condition, (i, condition) ∈ c.held

structure Kept (host : String) (c c' : Contest ι) : Prop where
  conditions : c'.memory.conditionsOf host = c.memory.conditionsOf host
  held : c'.held = c.held
  rivals : ∀ i, (c'.rivals i).eviction = (c.rivals i).eviction ∧
    (c.rivals i).phase.Onward (c'.rivals i).phase

theorem Sound.kept (hc : c.Sound host initial) (h : Kept host c c') : c'.Sound host initial := by
  obtain ⟨hconditions, hheld, hrivals⟩ := h
  refine ⟨fun i ↦ ?_, ?_, ?_, fun r hr ↦ ?_, fun i hholding ↦ ?_⟩
  · rw [(hrivals i).1]
    exact hc.hosts i
  · rw [hconditions, hheld]
    exact hc.conditions
  · rw [hconditions]
    exact hc.victims
  · rw [hheld] at hr
    obtain ⟨hreserving, hcondition⟩ := hc.held r hr
    rw [(hrivals r.1).1]
    refine ⟨Bool.eq_false_iff.2 fun hagain ↦ ?_, hcondition⟩
    rw [(hrivals r.1).2.reserving hagain] at hreserving
    cases hreserving
  · rw [hheld]
    exact hc.holding i ((hrivals i).2.holding hholding)

theorem Sound.victim_of_held (hc : c.Sound host initial) {h : ι × NodeCondition}
    (hh : h ∈ c.held) : h.2.victim? = some (c.rivals h.1).eviction.victimKey.text := by
  obtain ⟨_, now, hcondition⟩ := hc.held h hh
  rw [hcondition]
  rfl

/-- The victims that evictions hold are distinct, and so are those evictions. -/
theorem Sound.held_nodup (hc : c.Sound host initial) :
    (c.held.map fun h ↦ (c.rivals h.1).eviction.victimKey.text).Nodup := by
  have hvictims : Node.victims (c.held.map (·.2)) =
      c.held.map fun h ↦ (c.rivals h.1).eviction.victimKey.text := by
    rw [Node.victims, List.filterMap_map, ← List.filterMap_eq_map]
    exact List.filterMap_congr fun h hh ↦ hc.victim_of_held hh
  have hnodup := hc.victims
  rw [hc.conditions, Node.victims_append] at hnodup
  rw [← hvictims]
  exact (List.nodup_append'.1 hnodup).2.1

structure Fresh (host : String) (c : Contest ι) : Prop where
  hosts : ∀ i, (c.rivals i).eviction.host = host
  phases : ∀ i, (c.rivals i).phase = (c.rivals i).evictor.begin
  held : c.held = []

theorem Fresh.sound (hc : c.Fresh host)
    (hfree : (Node.victims (c.memory.conditionsOf host)).Nodup) :
    c.Sound host (c.memory.conditionsOf host) := by
  refine ⟨hc.hosts, ?_, hfree, ?_, fun i hholding ↦ ?_⟩
  · rw [hc.held, List.map_nil, List.append_nil]
  · rw [hc.held]
    exact nofun
  · rw [hc.phases] at hholding
    cases hholding

theorem Fresh.honest (hc : c.Fresh host) (hm : c.memory.Sound) : c.Honest := by
  refine ⟨hm, fun i u s n hwriting ↦ ?_⟩
  rw [hc.phases] at hwriting
  cases hwriting

variable [DecidableEq ι]

def advance (c : Contest ι) (i : ι) (phase : EvictionPhase) : ι → Rival :=
  Function.update c.rivals i { c.rivals i with phase }

def booked (c : Contest ι) (i : ι) (accepted : Bool) : List (ι × NodeCondition) :=
  match (c.rivals i).phase, accepted with
  | .writing .reserve _ n, true => c.held ++ n.conditions.getLast?.toList.map (i, ·)
  | .writing (.release _) _ _, true => c.held.filter fun h ↦ h.1 ≠ i
  | _, _ => c.held

theorem booked_refused (c : Contest ι) (i : ι) : c.booked i false = c.held := by
  unfold booked
  split
  · next h => cases h
  · next h => cases h
  · rfl

theorem booked_idle {i : ι} {accepted : Bool}
    (hphase : ∀ u s n, (c.rivals i).phase ≠ .writing u s n) : c.booked i accepted = c.held := by
  unfold booked
  split
  · next h => exact absurd h (hphase _ _ _)
  · next h => exact absurd h (hphase _ _ _)
  · rfl

def answer (c : Contest ι) (i : ι) (asked : Call) (resume : asked.Answer → EvictionPhase) :
    Contest ι where
  memory := (c.memory.perform asked).2
  rivals := c.advance i (resume (c.memory.perform asked).1)
  held := c.booked i (c.memory.perform asked).1.isOk

/-- One of the evictions makes its next call or ends a rest, or the orchestrator is told how to
fail from now on. -/
inductive Step : Contest ι → Contest ι → Prop
  | call {c : Contest ι} {asked : Call} {resume : asked.Answer → EvictionPhase} (i : ι)
      (now : Timestamp) :
      (c.rivals i).evictor.next (c.rivals i).eviction now (c.rivals i).phase =
        .call asked resume → Step c (c.answer i asked resume)
  | sleep {c : Contest ι} {d : Delay} {after : EvictionPhase} (i : ι) (now : Timestamp) :
      (c.rivals i).evictor.next (c.rivals i).eviction now (c.rivals i).phase = .sleep d after →
      Step c { c with rivals := c.advance i after }
  | disturb {c : Contest ι} (faults : Faults) :
      Step c { c with memory := { c.memory with faults } }

def Reserved (host : String) (c c' : Contest ι) : Prop :=
  ∃ i now, (c.rivals i).phase.reserving = true ∧ c'.rivals = c.advance i .deleting ∧
    (c.rivals i).eviction.victimKey.text ∉ Node.victims (c.memory.conditionsOf host) ∧
    c'.memory.conditionsOf host =
      c.memory.conditionsOf host ++ [Evictor.reservationCondition (c.rivals i).eviction now] ∧
    c'.held = c.held ++ [(i, Evictor.reservationCondition (c.rivals i).eviction now)]

def Released (host : String) (c c' : Contest ι) : Prop :=
  ∃ i result condition xs ys before after, (c.rivals i).phase.holding = true ∧
    c'.rivals = c.advance i (.finished result) ∧
    c.memory.conditionsOf host = xs ++ condition :: ys ∧
    c'.memory.conditionsOf host = xs ++ ys ∧
    c.held = before ++ (i, condition) :: after ∧ c'.held = before ++ after

theorem advance_phase (c : Contest ι) (i j : ι) (phase : EvictionPhase) :
    (c.advance i phase j).phase = if j = i then phase else (c.rivals j).phase := by
  unfold advance
  by_cases hj : j = i
  · rw [if_pos hj, hj, Function.update_self]
  · rw [if_neg hj, Function.update_of_ne hj]

theorem advance_eviction (c : Contest ι) (i j : ι) (phase : EvictionPhase) :
    (c.advance i phase j).eviction = (c.rivals j).eviction := by
  unfold advance
  by_cases hj : j = i
  · rw [hj, Function.update_self]
  · rw [Function.update_of_ne hj]

theorem advance_onward {i : ι} {phase : EvictionPhase} (h : (c.rivals i).phase.Onward phase)
    (j : ι) : (c.advance i phase j).eviction = (c.rivals j).eviction ∧
      (c.rivals j).phase.Onward (c.advance i phase j).phase := by
  refine ⟨c.advance_eviction i j phase, ?_⟩
  rw [advance_phase]
  split
  · next heq => rwa [heq]
  · exact .refl _

/-! ### What a step does to the node -/

theorem Kept.of_call {asked : Call} {resume : asked.Answer → EvictionPhase} {i : ι}
    (hnodes : (c.memory.perform asked).2.cluster.nodes = c.memory.cluster.nodes)
    (hbooked : c.booked i (c.memory.perform asked).1.isOk = c.held)
    (honward : (c.rivals i).phase.Onward (resume (c.memory.perform asked).1)) :
    Kept host c (c.answer i asked resume) := by
  refine ⟨?_, hbooked, advance_onward honward⟩
  unfold Memory.conditionsOf answer
  rw [hnodes]

theorem answer_accepted {i : ι} {n stored : Node}
    {resume : (Call.updateNodeStatus n).Answer → EvictionPhase}
    (haccepts : c.memory.Accepts n stored) :
    c.answer i (.updateNodeStatus n) resume =
      { memory := c.memory.bump.putNode n.name (c.memory.written n stored)
        rivals := c.advance i (resume (.ok (c.memory.written n stored)))
        held := c.booked i true } := by
  unfold answer
  have hanswer : c.memory.perform (.updateNodeStatus n) =
      (.ok (c.memory.written n stored), c.memory.bump.putNode n.name (c.memory.written n stored)) :=
    haccepts.update_eq
  rw [hanswer]
  rfl

theorem Reserved.of_write {i : ι} {s : RetryState} {n stored : Node} {now : Timestamp}
    (hphase : (c.rivals i).phase = .writing .reserve s n) (haccepts : c.memory.Accepts n stored)
    (hedit : Evictor.edit (c.rivals i).eviction now .reserve stored = some n) :
    Reserved n.name c (c.answer i (.updateNodeStatus n) fun r ↦
      (c.rivals i).evictor.settle (c.rivals i).eviction .reserve s (r.map fun _ ↦ true)) := by
  have hconditions : n.conditions =
      stored.conditions ++ [Evictor.reservationCondition (c.rivals i).eviction now] := by
    rw [Evictor.edit_reserve hedit]
    rfl
  have hfree : (c.rivals i).eviction.victimKey.text ∉ Node.victims stored.conditions :=
    Node.free_of_reserve? hedit
  rw [answer_accepted haccepts]
  refine ⟨i, now, ?_, rfl, ?_, ?_, ?_⟩
  · rw [hphase]
    rfl
  · rwa [haccepts.conditionsOf]
  · rw [haccepts.conditionsOf, Memory.conditionsOf_written, hconditions]
  · unfold booked
    rw [hphase]
    dsimp only
    rw [hconditions, List.getLast?_concat]
    rfl

theorem Released.of_write {i : ι} {s : RetryState} {n stored : Node} {now : Timestamp}
    {result : Except SchedulingError Unit} (hc : c.Sound n.name initial)
    (hphase : (c.rivals i).phase = .writing (.release result) s n)
    (haccepts : c.memory.Accepts n stored)
    (hedit : Evictor.edit (c.rivals i).eviction now (.release result) stored = some n) :
    Released n.name c (c.answer i (.updateNodeStatus n) fun r ↦
      (c.rivals i).evictor.settle (c.rivals i).eviction (.release result) s
        (r.map fun _ ↦ true)) := by
  have hholding : (c.rivals i).phase.holding = true := by
    rw [hphase]
    rfl
  obtain ⟨condition, hmem⟩ := hc.holding i hholding
  have hvictim := hc.victim_of_held hmem
  have hnodup := hc.held_nodup
  obtain ⟨before, after, hheld⟩ := List.append_of_mem hmem
  have hsplit : c.memory.conditionsOf n.name =
      (initial ++ before.map (·.2)) ++ condition :: after.map (·.2) := by
    rw [hc.conditions, hheld, List.map_append, List.map_cons, List.append_assoc]
  have hconditions : n.conditions = (initial ++ before.map (·.2)) ++ after.map (·.2) := by
    unfold Evictor.edit Node.release? at hedit
    dsimp only at hedit
    split at hedit
    · rw [← Node.filter_of_nodup (hsplit ▸ hc.victims) hvictim, ← hsplit, haccepts.conditionsOf]
      cases hedit
      rfl
    · cases hedit
  have hothers : ∀ h ∈ before ++ after, h.1 ≠ i := by
    rw [hheld, List.map_append, List.map_cons, List.nodup_middle, ← List.map_append] at hnodup
    intro h hh heq
    refine (List.nodup_cons.1 hnodup).1 (List.mem_map.2 ⟨h, hh, ?_⟩)
    rw [heq]
  rw [answer_accepted haccepts]
  refine ⟨i, result, condition, _, _, before, after, hholding, rfl, hsplit, ?_, hheld, ?_⟩
  · rw [Memory.conditionsOf_written, hconditions]
  · unfold booked
    rw [hphase]
    dsimp only
    have hkept {hs : List (ι × NodeCondition)} (hsub : hs ⊆ before ++ after) :
        hs.filter (fun h ↦ h.1 ≠ i) = hs :=
      List.filter_eq_self.2 fun h hh ↦ decide_eq_true (hothers h (hsub hh))
    rw [hheld, List.filter_append, List.filter_cons_of_neg, hkept, hkept]
    · exact List.subset_append_right _ _
    · exact List.subset_append_left _ _
    · simp

/-- A step leaves the node's conditions alone, or adds the one that it is after, or removes the one
that it had added. -/
theorem Step.cases (h : Step c c') (hhonest : c.Honest) (hc : c.Sound host initial) :
    Kept host c c' ∨ Reserved host c c' ∨ Released host c c' := by
  cases h with
  | sleep i now hnext => exact .inl ⟨rfl, rfl, advance_onward (Evictor.sleep_onward hnext).1⟩
  | disturb faults => exact .inl ⟨rfl, rfl, fun i ↦ ⟨rfl, .refl _⟩⟩
  | @call asked resume i now hnext =>
    -- No call but an update of the node's status touches the conditions.
    by_cases hasked : ∃ n, asked = .updateNodeStatus n
    · obtain ⟨n, rfl⟩ := hasked
      obtain ⟨u, s, hphase, rfl⟩ := Evictor.phase_of_update hnext
      have hdraft := hhonest.drafts i u s n hphase
      rcases c.memory.updateNodeStatus_cases n with ⟨stored, haccepts⟩ | ⟨cause, faults, hfailed⟩
      · obtain ⟨_, now, hedit⟩ := hdraft.accepted haccepts
        obtain rfl : n.name = host := hdraft.name.trans (hc.hosts i)
        cases u with
        | reserve => exact .inr (.inl (.of_write hphase haccepts hedit))
        | release result => exact .inr (.inr (.of_write hc hphase haccepts hedit))
      · have hanswer : c.memory.perform (.updateNodeStatus n) =
          (.error cause, { c.memory with faults }) := hfailed
        have honward : (EvictionPhase.reading u s).Onward
            ((c.rivals i).evictor.settle (c.rivals i).eviction u s (.error cause)) :=
          Evictor.settle_onward nofun
        refine .inl (.of_call ?_ ?_ ?_)
        · rw [hanswer]
        · rw [hanswer]
          exact c.booked_refused i
        · rw [hanswer, hphase]
          exact ⟨honward.reserving, honward.holding⟩
    · have hnodes : (c.memory.perform asked).2.cluster.nodes = c.memory.cluster.nodes := by
        rcases c.memory.perform_cases asked with ⟨hnodes, _⟩ | ⟨n, _, hupdate, _⟩
        · exact hnodes
        · exact absurd ⟨n, hupdate⟩ hasked
      refine .inl (.of_call hnodes (booked_idle fun u s n hphase ↦ ?_) ?_)
      · rw [hphase] at hnext
        cases hnext
        exact hasked ⟨n, rfl⟩
      · exact Evictor.call_onward hnext (fun n hn ↦ hasked ⟨n, hn⟩) _

/-! ### The account -/

theorem Sound.reserved (hc : c.Sound host initial) (h : Reserved host c c') :
    c'.Sound host initial := by
  obtain ⟨i, now, hreserving, hrivals, hfree, hconditions, hheld⟩ := h
  refine ⟨fun j ↦ ?_, ?_, ?_, fun r hr ↦ ?_, fun j hholding ↦ ?_⟩
  · rw [hrivals, advance_eviction]
    exact hc.hosts j
  · rw [hconditions, hheld, hc.conditions, List.map_append, List.append_assoc]
    rfl
  · rw [hconditions, Node.victims_append]
    exact List.nodup_append'.2 ⟨hc.victims, List.nodup_singleton _,
      fun v hv hnew ↦ hfree (List.mem_singleton.1 hnew ▸ hv)⟩
  · rw [hheld] at hr
    rw [hrivals, advance_eviction, advance_phase]
    rcases List.mem_append.1 hr with hold | hnew
    · obtain ⟨hdone, hcondition⟩ := hc.held r hold
      refine ⟨?_, hcondition⟩
      split
      · rfl
      · exact hdone
    · cases List.mem_singleton.1 hnew
      exact ⟨by rw [if_pos rfl]; rfl, now, rfl⟩
  · rw [hheld]
    rw [hrivals, advance_phase] at hholding
    split at hholding
    · next heq =>
      rw [heq]
      exact ⟨_, List.mem_append_right _ (List.mem_singleton_self _)⟩
    · obtain ⟨condition, hmem⟩ := hc.holding j hholding
      exact ⟨condition, List.mem_append_left _ hmem⟩

theorem Sound.released (hc : c.Sound host initial) (h : Released host c c') :
    c'.Sound host initial := by
  obtain ⟨i, result, condition, xs, ys, before, after, _, hrivals, hsplit, hconditions, hheld,
    hheld'⟩ := h
  have hvictim := hc.victim_of_held (h := (i, condition)) (by rw [hheld]; simp)
  have hinitial : c.memory.conditionsOf host =
      (initial ++ before.map (·.2)) ++ condition :: after.map (·.2) := by
    rw [hc.conditions, hheld, List.map_append, List.map_cons, List.append_assoc]
  have hkept : xs ++ ys = (initial ++ before.map (·.2)) ++ after.map (·.2) := by
    rw [← Node.filter_of_nodup (hsplit ▸ hc.victims) hvictim, ← hsplit, hinitial]
    exact Node.filter_of_nodup (hinitial ▸ hc.victims) hvictim
  refine ⟨fun j ↦ ?_, ?_, ?_, fun r hr ↦ ?_, fun j hholding ↦ ?_⟩
  · rw [hrivals, advance_eviction]
    exact hc.hosts j
  · rw [hconditions, hkept, hheld', List.map_append, List.append_assoc]
  · rw [hconditions]
    refine List.Nodup.sublist ?_ (hsplit ▸ hc.victims)
    exact ((List.sublist_cons_self condition ys).append_left xs).filterMap _
  · have hr' : r ∈ c.held := by
      rw [hheld]
      rw [hheld'] at hr
      exact ((List.sublist_cons_self _ after).append_left before).subset hr
    obtain ⟨hdone, hcondition⟩ := hc.held r hr'
    rw [hrivals, advance_eviction, advance_phase]
    refine ⟨?_, hcondition⟩
    split
    · rfl
    · exact hdone
  · rw [hrivals, advance_phase] at hholding
    split at hholding
    · cases hholding
    · next hne =>
      obtain ⟨other, hmem⟩ := hc.holding j hholding
      refine ⟨other, ?_⟩
      rw [hheld] at hmem
      rw [hheld']
      rcases List.mem_append.1 hmem with hbefore | hrest
      · exact List.mem_append_left _ hbefore
      · rcases List.mem_cons.1 hrest with heq | hafter
        · cases heq
          exact absurd rfl hne
        · exact List.mem_append_right _ hafter

/-! ### Drafts -/

theorem Step.honest (h : Step c c') (hc : c.Honest) : c'.Honest := by
  cases h with
  | @call asked resume i now hnext =>
    refine ⟨hc.memory.perform asked, fun j u s n hwriting ↦ ?_⟩
    dsimp only [answer] at hwriting ⊢
    rw [advance_eviction]
    rw [advance_phase] at hwriting
    split at hwriting
    · next heq =>
      rw [heq]
      exact .of_call hc.memory hnext hwriting
    · exact (hc.drafts j u s n hwriting).perform asked
  | sleep i now hnext =>
    refine ⟨hc.memory, fun j u s n hwriting ↦ ?_⟩
    dsimp only at hwriting ⊢
    rw [advance_eviction]
    rw [advance_phase] at hwriting
    split at hwriting
    · exact absurd hwriting ((Evictor.sleep_onward hnext).2 u s n)
    · exact hc.drafts j u s n hwriting
  | disturb faults =>
    exact ⟨hc.memory.of_nodes rfl (Nat.le_refl _),
      fun i u s n hwriting ↦ (hc.drafts i u s n hwriting).of_nodes rfl (Nat.le_refl _)⟩

/-! ### Any number of steps -/

theorem Sound.steps {start : Contest ι} (hhonest : start.Honest) (hstart : start.Sound host initial)
    (h : Relation.ReflTransGen Step start c) : c.Honest ∧ c.Sound host initial := by
  induction h with
  | refl => exact ⟨hhonest, hstart⟩
  | tail _ hstep ih =>
    obtain ⟨hhonest, hc⟩ := ih
    refine ⟨hstep.honest hhonest, ?_⟩
    rcases hstep.cases hhonest hc with hkept | hreserved | hreleased
    · exact hc.kept hkept
    · exact hc.reserved hreserved
    · exact hc.released hreleased

/-- However evictions of one node are interleaved and whatever conflicts are injected, a node on
which no victim is reserved twice remains one, no victim is held by two evictions, and every update
that is accepted adds the condition of the eviction that made it or removes just that one. -/
theorem reservations_exclusive {start : Contest ι} (hm : start.memory.Reachable)
    (hfresh : start.Fresh host)
    (hfree : (Node.victims (start.memory.conditionsOf host)).Nodup)
    (hreach : Relation.ReflTransGen Step start c) :
    c.Sound host (start.memory.conditionsOf host) ∧
      (c.held.map fun h ↦ (c.rivals h.1).eviction.victimKey.text).Nodup ∧
      ∀ c', Step c c' → Kept host c c' ∨ Reserved host c c' ∨ Released host c c' := by
  obtain ⟨hhonest, hc⟩ := (hfresh.sound hfree).steps (hfresh.honest hm.sound) hreach
  exact ⟨hc, hc.held_nodup, fun c' hstep ↦ hstep.cases hhonest hc⟩

def turn (now : Timestamp) (c : Contest ι) (i : ι) : Contest ι :=
  match (c.rivals i).evictor.next (c.rivals i).eviction now (c.rivals i).phase with
  | .call asked resume => c.answer i asked resume
  | .sleep _ after => { c with rivals := c.advance i after }
  | .done => c

theorem turns_reach (now : Timestamp) (turns : List ι) (c : Contest ι) :
    Relation.ReflTransGen Step c (turns.foldl (turn now) c) := by
  induction turns generalizing c with
  | nil => exact .refl
  | cons i turns ih =>
    refine .trans ?_ (ih (c.turn now i))
    unfold turn
    split
    · next hnext => exact .single (.call i now hnext)
    · next hnext => exact .single (.sleep i now hnext)
    · exact .refl

/-- Two evictions of one pod read the node before either writes it. The second update is refused,
and when it is tried again the pod is reserved already. -/
theorem reservations_exclusive_stale :
    let rival (preemptor : String) : Rival :=
      let x : Evictor := { settings := {}, retry := {} }
      let e : Eviction :=
        { host := "n1", preemptor := { metadata := { name := some preemptor } },
          victim := { metadata := { name := some "settled" } },
          preemptorKey := ⟨"default", preemptor⟩, victimKey := ⟨"default", "settled"⟩ }
      ⟨x, e, x.begin⟩
    let start : Contest Bool :=
      { memory := .holding [{ metadata := { name := some "n1" } }] []
        rivals := fun first ↦ rival (if first then "urgent" else "hasty") }
    ∃ c, start.memory.Reachable ∧ start.Fresh "n1" ∧
      (Node.victims (start.memory.conditionsOf "n1")).Nodup ∧
      Relation.ReflTransGen Step start c ∧
      (c.held.map fun h ↦ (c.rivals h.1).eviction.victimKey.text).Nodup ∧
      c.held.map (·.1) = [true] ∧
      (c.rivals false).phase = .finished (.error (c.rivals false).eviction.alreadyReserved) := by
  intro rival start
  let c := [true, false, true, false, false, false].foldl (turn default) start
  have hplayed : (Node.victims (start.memory.conditionsOf "n1"), c.held.map (·.1),
      (c.rivals false).phase) =
        ([], [true], .finished (.error (c.rivals false).eviction.alreadyReserved)) := by
    -- The kernel evaluates closed terms only.
    revert rival
    rfl
  obtain ⟨hempty, hheld, hphase⟩ := by simpa only [Prod.mk.injEq] using hplayed
  have hfree : (Node.victims (start.memory.conditionsOf "n1")).Nodup := hempty ▸ .nil
  have hm : start.memory.Reachable := .holding _ _
  have hfresh : start.Fresh "n1" := ⟨fun _ ↦ rfl, fun _ ↦ rfl, rfl⟩
  have hreach : Relation.ReflTransGen Step start c := turns_reach ..
  obtain ⟨_, hnodup, _⟩ := reservations_exclusive hm hfresh hfree hreach
  exact ⟨c, hm, hfresh, hfree, hreach, hnodup, hheld, hphase⟩

end Contest

end PodPlacement
