import Mathlib.Algebra.Order.Sub.Defs
import Mathlib.Data.Nat.Find
import Mathlib.Data.Set.Basic
import Mathlib.Order.Bounds.Defs
import PodPlacement.Scheduling.Retry

/-!
Trying again on conflicts, whatever the attempts come to: the first outcome that is no conflict is
the result, unless all attempts are used up before.
-/

namespace PodPlacement

def RetryRun.after {α : Type} (r : RetryRun α) (delays : List Delay) : RetryRun α :=
  { r with delays := delays ++ r.delays }

namespace RetryConfig

variable {α : Type} {c : RetryConfig} {operation : String} {s : RetryState} {n : Nat}
  {outcome : Nat → Except ClusterError α}

def isConflict : Except ClusterError α → Bool
  | .ok _ => false
  | .error cause => cause.isConflict

/-! ### One attempt -/

section Judgment

variable {r : Except ClusterError α}

theorem judge_of_settled (h : isConflict r = false) :
    c.judge operation s r = .finish (r.mapError .cluster) := by
  cases r with
  | ok a => rfl
  | error cause =>
    simp only [isConflict] at h
    simp [judge, h, Except.mapError]

theorem judge_of_conflict (h : isConflict r = true) (hleft : s.attempt < c.attempts) :
    c.judge operation s r = .rest (c.delay s) := by
  cases r with
  | ok a => cases h
  | error cause =>
    simp only [isConflict] at h
    simp [judge, h, hleft]

theorem judge_of_last (h : isConflict r = true) (hlast : c.attempts ≤ s.attempt) :
    c.judge operation s r = .finish (.error (.retriesExhausted operation c.attempts)) := by
  cases r with
  | ok a => cases h
  | error cause =>
    simp only [isConflict] at h
    simp [judge, h, Nat.not_lt.2 hlast]

theorem judge_cases (c : RetryConfig) (operation : String) (s : RetryState)
    (r : Except ClusterError α) :
    (isConflict r = false ∧ c.judge operation s r = .finish (r.mapError .cluster)) ∨
      isConflict r = true ∧ (c.judge operation s r = .rest (c.delay s) ∨
        c.judge operation s r = .finish (.error (.retriesExhausted operation c.attempts))) := by
  cases h : isConflict r with
  | false => exact .inl ⟨rfl, judge_of_settled h⟩
  | true =>
    rcases Nat.lt_or_ge s.attempt c.attempts with hleft | hlast
    · exact .inr ⟨rfl, .inl (judge_of_conflict h hleft)⟩
    · exact .inr ⟨rfl, .inr (judge_of_last h hlast)⟩

theorem judge_ok {a : α} (h : c.judge operation s r = .finish (.ok a)) : r = .ok a := by
  rcases judge_cases c operation s r with ⟨-, hj⟩ | ⟨-, hj | hj⟩
  · rw [hj] at h
    cases r with
    | ok b => cases h; rfl
    | error cause => cases h
  · cases hj.symm.trans h
  · cases hj.symm.trans h

theorem judge_error {failure : SchedulingError}
    (h : c.judge operation s r = .finish (.error failure)) :
    failure = .retriesExhausted operation c.attempts ∨
      ∃ cause, r = .error cause ∧ cause.isConflict = false ∧ failure = .cluster cause := by
  rcases judge_cases c operation s r with ⟨hsettled, hj⟩ | ⟨-, hj | hj⟩
  · rw [hj] at h
    cases r with
    | ok a => cases h
    | error cause =>
      cases h
      exact .inr ⟨cause, rfl, hsettled, rfl⟩
  · cases hj.symm.trans h
  · cases hj.symm.trans h
    exact .inl rfl

theorem judge_rest {d : Delay} (h : c.judge operation s r = .rest d) :
    ∃ cause, r = .error cause := by
  rcases judge_cases c operation s r with ⟨-, hj⟩ | ⟨hconflict, -⟩
  · cases hj.symm.trans h
  · cases r with
    | ok a => cases hconflict
    | error cause => exact ⟨cause, rfl⟩

end Judgment

/-! ### Delays -/

def stateAfter (c : RetryConfig) (n : Nat) : RetryState := c.advance^[n] c.start

def backoff (c : RetryConfig) (n : Nat) : List Delay :=
  (List.range n).map fun i ↦ c.delay (c.stateAfter i)

end RetryConfig

end PodPlacement
