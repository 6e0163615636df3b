import Mathlib.Algebra.Group.Nat.Defs
import PodPlacement.Proofs.Scheduling.Eviction.Course

/-!
Waiting for a victim to go. The wait ends with the first look that finds the victim gone and with no
other, and the rests between the looks double up to a ceiling.
-/

namespace PodPlacement

namespace Evictor

variable {x : Evictor} {e : Eviction} {k : Nat} {acts : List Act} {phase : EvictionPhase}
  {answer : Except ClusterError Pod}

/-! ### The rests between the looks -/

/-- The longest rest after the look with the number `k`, counted from zero. -/
def interval (x : Evictor) : Nat → Nat
  | 0 => x.firstInterval
  | k + 1 => x.nextInterval (x.interval k)

theorem interval_eq (x : Evictor) (k : Nat) : x.interval k = min (100 * 2 ^ k) x.pollCeiling := by
  induction k with
  | zero => simp [interval, firstInterval, firstPollMs]
  | succ k ih =>
    rw [interval, nextInterval, ih, Nat.pow_succ]
    omega

theorem interval_le (x : Evictor) (k : Nat) : x.interval k ≤ x.pollCeiling := by
  rw [interval_eq]
  exact Nat.min_le_right ..

theorem interval_doubled_lt (h : x.settings.maxPollMs < 2 ^ 63) (k : Nat) :
    x.interval k * 2 < 2 ^ 64 := by
  have hle := x.interval_le k
  unfold pollCeiling at hle
  omega

/-! ### Looks for the victim -/

structure Look where
  answer : Except ClusterError Pod
  restMs : Nat

def asks (e : Eviction) (answer : Except ClusterError Pod) : Act :=
  .asked ⟨.getWorkload e.victimKey.space e.victimKey.name, answer⟩

def lookedThrough (e : Eviction) (looks : List Look) : List Act :=
  looks.flatMap fun l ↦ [asks e l.answer, .rested l.restMs]

/-- None of the looks, of which the first has the number `k`, finds the victim gone, and every rest
is from half its interval to all of it. -/
def InVain (x : Evictor) (e : Eviction) : Nat → List Look → Prop
  | _, [] => True
  | k, l :: looks =>
    (¬Gone e.victim l.answer ∧ x.interval k / 2 ≤ l.restMs ∧ l.restMs ≤ x.interval k) ∧
      InVain x e (k + 1) looks

theorem afterCheck_of_gone (h : Gone e.victim answer) (intervalMs : Nat) :
    afterCheck e intervalMs answer = .placing := by
  cases answer with
  | ok current => exact if_neg h
  | error cause => exact if_pos h

theorem afterCheck_of_present (h : ¬Gone e.victim answer) (intervalMs : Nat) :
    afterCheck e intervalMs answer = .waiting intervalMs := by
  cases answer with
  | ok current => exact if_pos (Decidable.not_not.1 h)
  | error cause => exact if_neg h

/-- The evictor is still waiting: its last look did not find the victim gone, or it has not looked
again. -/
inductive StillWaiting (x : Evictor) (e : Eviction) (k : Nat) : List Act → EvictionPhase → Prop
  | checking : StillWaiting x e k [] (.checking (x.interval k))
  | waiting {answer : Except ClusterError Pod} : ¬Gone e.victim answer →
      StillWaiting x e k [asks e answer] (.waiting (x.interval k))

/-- The wait ended with a look that found the victim gone, and no rest stands between that look and
the placement of the pod. -/
inductive Over (e : Eviction) : List Act → EvictionPhase → Prop
  | placing {answer : Except ClusterError Pod} : Gone e.victim answer →
      Over e [asks e answer] .placing
  | placed {answer : Except ClusterError Pod} {bound : Except ClusterError Unit}
      {later : List Act} {phase : EvictionPhase} : Gone e.victim answer →
      Over e (asks e answer :: .asked ⟨.bind e.preemptor e.host, bound⟩ :: later) phase

theorem Over.of_placing (hgone : Gone e.victim answer)
    (h : Timed (x.next e) .placing acts phase) : Over e (asks e answer :: acts) phase := by
  cases h with
  | stay => exact .placing hgone
  | call now bound hnext =>
    cases hnext
    exact .placed hgone
  | sleep now draw hnext => cases hnext

/-- One turn of the wait: either it has come to its last look, or a look in vain and the rest after
it are behind it. -/
theorem look_cases (h : Timed (x.next e) (.checking (x.interval k)) acts phase) :
    StillWaiting x e k acts phase ∨ Over e acts phase ∨
      ∃ (l : Look) (later : List Act), acts = asks e l.answer :: .rested l.restMs :: later ∧
        (¬Gone e.victim l.answer ∧ x.interval k / 2 ≤ l.restMs ∧ l.restMs ≤ x.interval k) ∧
        Timed (x.next e) (.checking (x.interval (k + 1))) later phase := by
  cases h with
  | stay => exact .inl .checking
  | sleep now draw hnext => cases hnext
  | call now answer hnext hrest =>
    cases hnext
    by_cases hgone : Gone e.victim answer
    · rw [afterCheck_of_gone hgone] at hrest
      exact .inr (.inl (.of_placing hgone hrest))
    · rw [afterCheck_of_present hgone] at hrest
      cases hrest with
      | stay => exact .inl (.waiting hgone)
      | call now answer hnext => cases hnext
      | sleep now draw hnext hlater =>
        cases hnext
        have hhalf : x.interval k / 2 ≤ x.interval k := Nat.div_le_self ..
        have hlow := (pollDelay (x.interval k)).low_le_pick draw
        have hhigh := Delay.pick_le_high (d := pollDelay (x.interval k)) hhalf draw
        exact .inr (.inr ⟨⟨answer, _⟩, _, rfl, ⟨hgone, hlow, hhigh⟩, hlater⟩)

/-- The looks made from the one with the number `k` on, and how far the wait has come. -/
theorem exists_looks (h : Timed (x.next e) (.checking (x.interval k)) acts phase) :
    ∃ looks rest, acts = lookedThrough e looks ++ rest ∧ InVain x e k looks ∧
      (StillWaiting x e (k + looks.length) rest phase ∨ Over e rest phase) := by
  -- One turn of the wait is two steps of the run, so the induction is on the length.
  induction hlength : acts.length using Nat.strongRecOn generalizing k acts with
  | ind n ih =>
    obtain hwaiting | hover | ⟨l, later, rfl, hvain, hlater⟩ := look_cases h
    · exact ⟨[], acts, rfl, trivial, .inl hwaiting⟩
    · exact ⟨[], acts, rfl, trivial, .inr hover⟩
    · have hshorter : later.length < n := by
        rw [← hlength, List.length_cons, List.length_cons]
        omega
      obtain ⟨looks, rest, rfl, hothers, hcome⟩ := ih _ hshorter hlater rfl
      refine ⟨l :: looks, rest, rfl, ⟨hvain, hothers⟩, ?_⟩
      rwa [List.length_cons, Nat.add_comm looks.length, ← Nat.add_assoc]

theorem Timed.of_check {intervalMs : Nat}
    (h : Timed (x.next e) (afterCheck e intervalMs answer) acts phase) :
    Timed (x.next e) (.checking intervalMs) (asks e answer :: acts) phase := by
  let c : Call := .getWorkload e.victimKey.space e.victimKey.name
  have hnext : x.next e default (.checking intervalMs) = .call c (afterCheck e intervalMs) := rfl
  exact .call (c := c) default answer hnext h

/-- Every course of the wait can come about. -/
theorem timed_lookedThrough {looks : List Look} (h : InVain x e k looks) :
    Timed (x.next e) (.checking (x.interval k)) (lookedThrough e looks)
      (.checking (x.interval (k + looks.length))) := by
  induction looks generalizing k with
  | nil => exact .stay _
  | cons l looks ih =>
    obtain ⟨⟨hpresent, hlow, hhigh⟩, hvain⟩ := h
    obtain ⟨draw, hdraw⟩ := Delay.exists_pick (d := pollDelay (x.interval k)) hlow hhigh
    have hlater := ih hvain
    rw [Nat.add_assoc, Nat.add_comm 1] at hlater
    apply Timed.of_check
    rw [afterCheck_of_present hpresent, ← hdraw]
    exact .sleep default draw rfl hlater

theorem timed_placing {last : Except ClusterError Pod} (h : Gone e.victim last) :
    Timed (x.next e) (.checking (x.interval k)) [asks e last] .placing := by
  apply Timed.of_check
  rw [afterCheck_of_gone h]
  exact .stay _

theorem afterDelete_of_removes {removal : Except ClusterError Unit} (h : Removes removal) :
    x.afterDelete e removal = .checking (x.interval 0) := by
  cases removal with
  | ok _ => rfl
  | error cause => exact if_pos h

/-- The wait for a deleted victim. Looks that find it in place or come to nothing are followed by a
rest each, and the first that finds it gone by the placement of the pod. The intervals of the rests
double from 100 milliseconds up to the ceiling, and 64 bits hold each of them doubled. -/
theorem removal_awaited (hceiling : x.settings.maxPollMs < 2 ^ 63)
    {removal : Except ClusterError Unit} (hremoved : Removes removal) :
    let start := x.afterDelete e removal
    (∀ k, x.interval k = min (100 * 2 ^ k) (max x.settings.maxPollMs 1) ∧
      x.interval k * 2 < 2 ^ 64) ∧
    (∀ acts phase, Timed (x.next e) start acts phase →
      ∃ looks rest, acts = lookedThrough e looks ++ rest ∧ InVain x e 0 looks ∧
        (StillWaiting x e looks.length rest phase ∨ Over e rest phase)) ∧
    ∀ looks, InVain x e 0 looks →
      Timed (x.next e) start (lookedThrough e looks) (.checking (x.interval looks.length)) ∧
      ∀ last, Gone e.victim last →
        Timed (x.next e) start (lookedThrough e looks ++ [asks e last]) .placing := by
  intro start
  have hstart : start = .checking (x.interval 0) := afterDelete_of_removes hremoved
  rw [hstart]
  refine ⟨fun k ↦ ⟨x.interval_eq k, interval_doubled_lt hceiling k⟩, fun acts phase hrun ↦ ?_,
    fun looks hvain ↦ ?_⟩
  · have hlooks := exists_looks hrun
    simpa only [Nat.zero_add] using hlooks
  · have hlooks : Timed (x.next e) (.checking (x.interval 0)) (lookedThrough e looks)
        (.checking (x.interval (0 + looks.length))) := timed_lookedThrough hvain
    rw [Nat.zero_add] at hlooks
    exact ⟨hlooks, fun last hgone ↦ hlooks.trans (timed_placing hgone)⟩

/-- The pod that is found first has no UID, and neither has the victim. Then the look fails, and in
the end another pod has the key. The second rest already reaches the ceiling. -/
theorem removal_awaited_replaced :
    let x : Evictor := { settings := { maxPollMs := 150 }, retry := {} }
    let e : Eviction :=
      { host := "n1", preemptor := {}, victim := {}, preemptorKey := ⟨"default", "urgent"⟩,
        victimKey := ⟨"default", "low"⟩ }
    let looks : List Look := [⟨.ok {}, 50⟩, ⟨.error (.transport "down"), 150⟩]
    let last : Except ClusterError Pod := .ok { metadata := { uid := some "new" } }
    x.settings.maxPollMs < 2 ^ 63 ∧ Removes (.error (.notFound "low")) ∧ InVain x e 0 looks ∧
      Gone e.victim last ∧ x.interval 1 = 150 ∧ x.interval 60 * 2 < 2 ^ 64 ∧
      Timed (x.next e) (x.afterDelete e (.error (.notFound "low")))
        (lookedThrough e looks ++ [asks e last]) .placing := by
  intro x e looks last
  have hceiling : x.settings.maxPollMs < 2 ^ 63 := by decide
  have hremoved : Removes (.error (.notFound "low")) := rfl
  obtain ⟨hinterval, _, hcourse⟩ := removal_awaited (x := x) (e := e) hceiling hremoved
  have hsame : ¬Gone e.victim (.ok {}) := fun hgone ↦ hgone rfl
  have hfailed : ¬Gone e.victim (.error (.transport "down")) := nofun
  have hvain : InVain x e 0 looks :=
    ⟨⟨hsame, by decide, by decide⟩, ⟨hfailed, by decide, by decide⟩, trivial⟩
  have hgone : Gone e.victim last := nofun
  exact ⟨hceiling, hremoved, hvain, hgone, (hinterval 1).1, (hinterval 60).2,
    (hcourse looks hvain).2 last hgone⟩

end Evictor

end PodPlacement
