import PodPlacement.Proofs.Service.Deliveries
import PodPlacement.Simulation.Run

/-!
What one turn, one message and one move of the clock do to the activities of a world.
-/

namespace PodPlacement.World

variable {w : World} {activity : Activity} {id : Nat} {t : Task}

def doing (w : World) (id : Nat) : Option Activity := (w.task? id).map (·.activity)

/-- Tasks have the numbers in which they came, and none of them has been told to end. -/
structure Numbered (w : World) : Prop where
  ids : w.tasks.map (·.id) = List.range w.tasks.length
  free : ∀ t ∈ w.tasks, t.cancelled = false

/-! ### Tasks -/

theorem mem_of_task? (h : w.task? id = some t) : t ∈ w.tasks ∧ t.id = id :=
  ⟨List.mem_of_find?_eq_some h, by simpa using List.find?_some h⟩

theorem exists_task_of_doing (h : w.doing id = some activity) :
    ∃ t, w.task? id = some t ∧ t.id = id ∧ t.activity = activity := by
  obtain ⟨t, ht, hactivity⟩ := Option.map_eq_some_iff.1 h
  exact ⟨t, ht, (mem_of_task? ht).2, hactivity⟩

theorem Numbered.id_lt (h : w.Numbered) (ht : t ∈ w.tasks) : t.id < w.tasks.length := by
  have hmem : t.id ∈ w.tasks.map (·.id) := List.mem_map_of_mem ht
  rw [h.ids] at hmem
  exact List.mem_range.1 hmem

theorem Numbered.lt_of_doing (h : w.Numbered) (hdoing : w.doing id = some activity) :
    id < w.tasks.length := by
  obtain ⟨t, ht, hid, _⟩ := exists_task_of_doing hdoing
  exact hid ▸ h.id_lt (mem_of_task? ht).1

theorem Numbered.task?_id (h : w.Numbered) (ht : t ∈ w.tasks) : w.task? t.id = some t := by
  have hsome : (w.task? t.id).isSome = true := List.find?_isSome.2 ⟨t, ht, beq_iff_eq.2 rfl⟩
  obtain ⟨u, hu⟩ := Option.isSome_iff_exists.1 hsome
  obtain ⟨hmem, hid⟩ := mem_of_task? hu
  have hnodup : (w.tasks.map (·.id)).Nodup := by
    rw [h.ids]
    exact List.nodup_range
  rw [hu, List.inj_on_of_nodup_map hnodup hmem ht hid]

theorem Numbered.doing_id (h : w.Numbered) (ht : t ∈ w.tasks) :
    w.doing t.id = some t.activity := by
  rw [doing, h.task?_id ht]
  rfl

theorem Numbered.exists_doing (h : w.Numbered) (hid : id < w.tasks.length) :
    ∃ activity, w.doing id = some activity := by
  have hmem : id ∈ w.tasks.map (·.id) := by
    rw [h.ids]
    exact List.mem_range.2 hid
  obtain ⟨t, ht, rfl⟩ := List.mem_map.1 hmem
  exact ⟨t.activity, h.doing_id ht⟩

theorem Numbered.spawn (h : w.Numbered) (activity : Activity) : (w.spawn activity).2.Numbered where
  ids := by simp [World.spawn, h.ids, List.range_succ]
  free := by simpa [World.spawn, or_imp, forall_and] using h.free

theorem Numbered.doing_spawn (h : w.Numbered) (activity : Activity) (id : Nat) :
    (w.spawn activity).2.doing id =
      if id = w.tasks.length then some activity else w.doing id := by
  have hnew (hid : id = w.tasks.length) : w.task? id = none := by
    refine List.find?_eq_none.2 fun t ht ↦ ?_
    have := h.id_lt ht
    simp only [beq_iff_eq]
    omega
  simp only [doing, task?, World.spawn, List.find?_append]
  split
  · next hid =>
    have hnone := hnew hid
    rw [task?] at hnone
    simp only [hnone, Option.none_or]
    simp [hid]
  · next hid => simp [Ne.symm hid]

theorem id_replaced (t u : Task) : (if u.id == t.id then t else u).id = u.id := by
  split
  · next heq => exact (beq_iff_eq.1 heq).symm
  · rfl

theorem Numbered.putTask (h : w.Numbered) (ht : t.cancelled = false) : (w.putTask t).Numbered where
  ids := by
    rw [World.putTask, List.map_map, List.length_map, ← h.ids]
    exact List.map_congr_left fun u _ ↦ id_replaced t u
  free := by
    intro u hu
    obtain ⟨v, hv, rfl⟩ := List.mem_map.1 hu
    split
    · exact ht
    · exact h.free v hv

theorem task?_putTask (w : World) (t : Task) (id : Nat) : (w.putTask t).task? id =
    if id = t.id then (w.task? id).map fun _ ↦ t else w.task? id := by
  have hfind : (w.putTask t).task? id =
      (w.task? id).map fun u ↦ if u.id == t.id then t else u := by
    rw [task?, putTask, List.find?_map]
    simp only [Function.comp_def, id_replaced, task?]
  rw [hfind]
  cases hu : w.task? id with
  | none => simp
  | some u =>
    have hid := (mem_of_task? hu).2
    by_cases heq : id = t.id
    · simp [heq, hid]
    · simp [heq, hid]

theorem doing_putTask (w : World) (t : Task) (id : Nat) : (w.putTask t).doing id =
    if id = t.id then (w.doing id).map fun _ ↦ t.activity else w.doing id := by
  rw [doing, doing, task?_putTask]
  split <;> simp [Function.comp_def]

/-! ### Waking -/

theorem wake_of_mem (h : id ∈ w.ready.map (·.task)) : w.wake id = w := by
  refine if_pos ?_
  obtain ⟨turn, hturn, hid⟩ := List.mem_map.1 h
  exact List.any_eq_true.2 ⟨turn, hturn, beq_iff_eq.2 hid⟩

theorem wake_of_not_mem (h : id ∉ w.ready.map (·.task)) :
    w.wake id = { w with ready := w.ready ++ [{ task := id }] } := by
  refine if_neg fun hany ↦ h ?_
  obtain ⟨turn, hturn, hid⟩ := List.any_eq_true.1 hany
  exact List.mem_map.2 ⟨turn, hturn, beq_iff_eq.1 hid⟩

theorem foldl_wake {α : Type} (task : α → Nat) (xs : List α) (w : World)
    (h : (w.ready.map (·.task) ++ xs.map task).Nodup) :
    xs.foldl (fun w x ↦ w.wake (task x)) w =
      { w with ready := w.ready ++ xs.map fun x ↦ { task := task x } } := by
  induction xs generalizing w with
  | nil => simp
  | cons x xs ih =>
    have hnew : task x ∉ w.ready.map (·.task) := fun hmem ↦
      List.disjoint_of_nodup_append h hmem List.mem_cons_self
    rw [List.foldl_cons, wake_of_not_mem hnew, ih]
    · simp
    · simpa using h

/-- Waking again whoever is awake changes nothing. -/
theorem foldl_wake_of_mem {α : Type} (task : α → Nat) (xs : List α) (w : World)
    (h : ∀ x ∈ xs, task x ∈ w.ready.map (·.task)) :
    xs.foldl (fun w x ↦ w.wake (task x)) w = w := by
  induction xs with
  | nil => rfl
  | cons x xs ih =>
    rw [List.foldl_cons, wake_of_mem (h x List.mem_cons_self)]
    exact ih fun y hy ↦ h y (List.mem_cons_of_mem _ hy)

/-! ### Messages -/

theorem send_refused {queue : String} {body : Body} (h : (w.queues.queue queue).consumer = .gone) :
    (w.send queue body).2 = w := by
  have hsend := (Queues.send_eq w.queues queue body).resolve_right fun hpresent ↦ hpresent.1 h
  simp only [World.send, hsend.2]

theorem send_accepted {queue : String} {body : Body} (h : (w.queues.queue queue).consumer ≠ .gone) :
    (w.send queue body).2 =
      (w.tasks.filter fun t ↦ w.listensOn queue t.activity).foldl (fun w t ↦ w.wake t.id)
        { w with queues := (w.queues.send queue body).2 } := by
  have hsend := (Queues.send_eq w.queues queue body).resolve_left fun hgone ↦ h hgone.1
  simp only [World.send, hsend.2]
  rfl

/-! ### One turn -/

def conclude (w : World) (turn : Turn) (id : Nat) : Move → World
  | .keep | .stepAside 0 => { w with ready := turn :: w.ready }
  | .stepAside (n + 1) => { w with ready := w.ready ++ [{ turn with detours := 2 * n + 1 }] }
  | .wait => w
  | .waitFor ms => w.addTimer ⟨w.nowMs + Delay.boundedMs ms, id⟩

theorem step_eq {turn : Turn} {rest : List Turn} (hready : w.ready = turn :: rest)
    (hturn : turn.detours = 0) (ht : w.task? turn.task = some t) :
    w.step =
      let (w', activity, move) := World.stepActivity { w with ready := rest } t
      (w'.putTask { t with activity }).conclude turn t.id move := by
  obtain ⟨task, detours⟩ := turn
  cases hturn
  have htask : World.task? { w with ready := rest } task = some t := ht
  simp only [step, hready, htask]
  rfl

theorem addTimer_perm (w : World) (t : Timer) : (w.addTimer t).timers.Perm (t :: w.timers) := by
  have hsplit : w.timers = w.timers.takeWhile (·.dueMs ≤ t.dueMs) ++
      w.timers.dropWhile (·.dueMs ≤ t.dueMs) := List.takeWhile_append_dropWhile.symm
  refine List.perm_middle.trans ?_
  rw [← hsplit]

end PodPlacement.World
