import PodPlacement.Orchestrator.Action
import PodPlacement.Time.Timestamp

/-!
Runs of an activity against an orchestrator that may answer each call in any way.
-/

namespace PodPlacement

abbrev Answered : Type := (c : Call) × c.Answer

variable {σ : Type}

/-- Steps that lead from one state to another, with the calls made on the way. The clock may show
anything at each step, every call may get every answer, and a sleep may take any time. -/
inductive Run (next : Timestamp → σ → Action σ) : σ → List Answered → σ → Prop
  | stay (a : σ) : Run next a [] a
  | call {a b : σ} {c : Call} {resume : c.Answer → σ} {trace : List Answered} (now : Timestamp)
      (answer : c.Answer) : next now a = .call c resume → Run next (resume answer) trace b →
      Run next a (⟨c, answer⟩ :: trace) b
  | sleep {a a' b : σ} {d : Delay} {trace : List Answered} (now : Timestamp) :
      next now a = .sleep d a' → Run next a' trace b → Run next a trace b

/-- What one step hands back to the state before it holds of every run that ends well. -/
theorem Run.induct_back {next : Timestamp → σ → Action σ} (good : σ → List Answered → Prop)
    (hcall : ∀ now a c resume answer trace, next now a = .call c resume →
      good (resume answer) trace → good a (⟨c, answer⟩ :: trace))
    (hsleep : ∀ now a d a' trace, next now a = .sleep d a' → good a' trace → good a trace)
    {a b : σ} {trace : List Answered} (h : Run next a trace b) (hend : good b []) :
    good a trace := by
  induction h with
  | stay => exact hend
  | call now answer hnext _ ih => exact hcall now _ _ _ answer _ hnext (ih hend)
  | sleep now hnext _ ih => exact hsleep now _ _ _ _ hnext (ih hend)

/-! ### Runs with their rests -/

/-- Something that an activity did: a call with its answer, or a rest of so many milliseconds. -/
inductive Act
  | asked (a : Answered)
  | rested (ms : Nat)

/-- Steps that lead from one state to another, with all that was done on the way. Every call may get
every answer, and a rest is meant to be as long as a draw makes it. -/
inductive Timed (next : Timestamp → σ → Action σ) : σ → List Act → σ → Prop
  | stay (a : σ) : Timed next a [] a
  | call {a b : σ} {c : Call} {resume : c.Answer → σ} {acts : List Act} (now : Timestamp)
      (answer : c.Answer) : next now a = .call c resume → Timed next (resume answer) acts b →
      Timed next a (.asked ⟨c, answer⟩ :: acts) b
  | sleep {a a' b : σ} {d : Delay} {acts : List Act} (now : Timestamp) (draw : Nat) :
      next now a = .sleep d a' → Timed next a' acts b →
      Timed next a (.rested (d.pick draw) :: acts) b

theorem Timed.trans {next : Timestamp → σ → Action σ} {a b c : σ} {acts later : List Act}
    (h : Timed next a acts b) (hlater : Timed next b later c) :
    Timed next a (acts ++ later) c := by
  induction h with
  | stay => exact hlater
  | call now answer hnext _ ih => exact .call now answer hnext (ih hlater)
  | sleep now draw hnext _ ih => exact .sleep now draw hnext (ih hlater)

namespace Call

def deletes : Call → Bool
  | deleteWorkload .. => true
  | _ => false

def binds : Call → Bool
  | bind .. => true
  | _ => false

end Call

/-! ### Calls that are made once -/

section

variable {α : Type} {p : α → Bool}

/-- A member that is the only one with a property splits a list in one way. -/
theorem append_cons_unique {xs ys before after : List α} {a b : α}
    (hxs : ∀ c ∈ xs, p c = false) (hys : ∀ c ∈ ys, p c = false) (ha : p a = true)
    (h : xs ++ b :: ys = before ++ a :: after) : before = xs ∧ a = b ∧ after = ys := by
  rcases List.append_eq_append_iff.1 h with ⟨mid, rfl, hmid⟩ | ⟨mid, rfl, hmid⟩
  · cases mid with
    | nil =>
      cases hmid
      exact ⟨List.append_nil xs, rfl, rfl⟩
    | cons c mid =>
      cases hmid
      rw [hys a (List.mem_append_right _ (List.mem_cons_self ..))] at ha
      cases ha
  · cases mid with
    | nil =>
      cases hmid
      exact ⟨(List.append_nil before).symm, rfl, rfl⟩
    | cons c mid =>
      cases hmid
      rw [hxs a (List.mem_append_right _ (List.mem_cons_self ..))] at ha
      cases ha

theorem countP_append_cons_le_one {xs ys : List α} {b : α}
    (hxs : ∀ c ∈ xs, p c = false) (hys : ∀ c ∈ ys, p c = false) :
    (xs ++ b :: ys).countP p ≤ 1 := by
  have hzero {l : List α} (h : ∀ c ∈ l, p c = false) : l.countP p = 0 :=
    List.countP_eq_zero.2 fun c hc ↦ Bool.eq_false_iff.1 (h c hc)
  rw [List.countP_append, List.countP_cons, hzero hxs, hzero hys]
  split <;> omega

theorem once_of_none {l : List α} (h : ∀ c ∈ l, p c = false)
    (good : List α → Prop) : l.countP p ≤ 1 ∧
      ∀ before a after, l = before ++ a :: after → p a = true → good before := by
  have hzero := List.countP_eq_zero.2 fun c hc ↦ Bool.eq_false_iff.1 (h c hc)
  refine ⟨by rw [hzero]; exact Nat.zero_le 1, fun before a after hsplit ha ↦ ?_⟩
  have hmem : a ∈ before ++ a :: after := List.mem_append_right _ (List.mem_cons_self ..)
  rw [h a (hsplit ▸ hmem)] at ha
  cases ha

end

end PodPlacement
