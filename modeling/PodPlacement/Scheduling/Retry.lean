import PodPlacement.Error
import PodPlacement.Scheduling.Settings
import PodPlacement.Time.Delay

/-!
Trying an operation again as long as it runs into conflicts. Any other outcome ends the attempts at
once, and so does the last conflict, after which there is no wait.
-/

namespace PodPlacement

/-- The attempt under way, counted from one, and the delay that would follow it. -/
structure RetryState where
  attempt : Nat := 1
  delayMs : Float
deriving Repr, Inhabited

inductive RetryVerdict (α : Type)
  | finish (result : Except SchedulingError α)
  | rest (delay : Delay)

/-- How often an operation was run, the delays in between, and how it ended: with no result at all
where a delay was due and none could be drawn. -/
structure RetryRun (α : Type) where
  calls : Nat
  delays : List Delay
  result : Option (Except SchedulingError α)

def RetryRun.waitedMs {α : Type} (r : RetryRun α) : Nat :=
  r.delays.foldl (fun total d ↦ total + Delay.boundedMs d.low) 0

namespace RetryConfig

def attempts (c : RetryConfig) : Nat := max c.steps 1

def start (c : RetryConfig) : RetryState where
  delayMs := Float.ofNat c.baseDelayMs

def roundMs (x : Float) : Nat := x.round.toUInt64.toNat

def growth (c : RetryConfig) : Float := if 1.0 < c.factor then c.factor else 1.0

def spread (c : RetryConfig) : Float := if 0.0 < c.jitter then c.jitter else 0.0

/-- Nothing can be drawn from a range without an end. -/
def draws (c : RetryConfig) : Bool := !c.spread.isInf

def extraMs (c : RetryConfig) (s : RetryState) (drawn : Float) : Float :=
  if 0.0 < c.jitter then s.delayMs * drawn else 0.0

/-- From the least number that may be drawn to the greatest. With no end to the delay and zero drawn
the extra is no number, and there is no delay. -/
def delay (c : RetryConfig) (s : RetryState) : Delay :=
  ⟨roundMs (s.delayMs + c.extraMs s 0.0), roundMs (s.delayMs + c.extraMs s c.spread)⟩

def advance (c : RetryConfig) (s : RetryState) : RetryState :=
  ⟨s.attempt + 1, s.delayMs * c.growth⟩

variable {α : Type}

def judge (c : RetryConfig) (operation : String) (s : RetryState)
    (outcome : Except ClusterError α) : RetryVerdict α :=
  match outcome with
  | .ok a => .finish (.ok a)
  | .error e =>
    if e.isConflict then
      if s.attempt < c.attempts then .rest (c.delay s)
      else .finish (.error (.retriesExhausted operation c.attempts))
    else .finish (.error (.cluster e))

theorem attempt_lt_of_rest {c : RetryConfig} {operation : String} {s : RetryState}
    {outcome : Except ClusterError α} {d : Delay}
    (h : c.judge operation s outcome = .rest d) : s.attempt < c.attempts := by
  unfold judge at h
  split at h
  · contradiction
  · split at h
    · split at h
      · assumption
      · contradiction
    · contradiction

/-- Runs the operation from the attempt `s` on; `outcome` tells what the attempts come to, counted
from zero. -/
def runFrom (c : RetryConfig) (operation : String) (outcome : Nat → Except ClusterError α)
    (s : RetryState) : RetryRun α :=
  match _h : c.judge operation s (outcome (s.attempt - 1)) with
  | .finish result => ⟨s.attempt, [], some result⟩
  | .rest d =>
    if c.draws then
      let r := runFrom c operation outcome (c.advance s)
      { r with delays := d :: r.delays }
    else ⟨s.attempt, [], none⟩
termination_by c.attempts - s.attempt
decreasing_by
  have := attempt_lt_of_rest _h
  simp only [advance]
  omega

def run (c : RetryConfig) (operation : String) (outcome : Nat → Except ClusterError α) :
    RetryRun α := c.runFrom operation outcome c.start

end RetryConfig

end PodPlacement
