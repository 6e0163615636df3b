import PodPlacement.Scheduling.Basic

/-!
How often a scheduling attempt steps aside. Nodes are judged and scored by tasks of their own, and
the attempt waits for each batch of them.
-/

namespace PodPlacement

variable {α : Type}

def sampleRounds (suits : α → Bool) (target : Nat) (found pool : List α) : Nat :=
  if h : found.length < target ∧ pool ≠ [] then
    let cut := pool.length - 2 * target
    1 + sampleRounds suits target (collectArrivals suits target found (pool.drop cut))
      (pool.take cut)
  else 0
termination_by pool.length
decreasing_by
  have : 0 < pool.length := List.length_pos_iff.2 h.2
  simp only [List.length_take]
  omega

namespace Scheduler

def evaluationRounds (s : Scheduler) (snapshot : Snapshot) (p : Pod) (nodes : List NodeInfo)
    (target : Option Nat) (test : Table Status → Bool) : Nat :=
  match target with
  | none => 1
  | some target => sampleRounds (s.admits snapshot p test) target [] nodes

def mayPreempt (s : Scheduler) (p : Pod) : Bool :=
  !s.settings.disablePreemption && p.priority != 0 && p.canPreempt

def turns (s : Scheduler) (snapshot : Snapshot) (p : Pod) : Nat :=
  if p.metadata.name.isNone || snapshot.nodes.isEmpty then 0
  else
    let (nodes, target, _) := s.arrange snapshot
    let rounds := s.evaluationRounds snapshot p nodes target fits
    match s.evaluateNodes .inOrder snapshot p nodes target fits with
    | [] =>
      if s.mayPreempt p then
        rounds + s.evaluationRounds snapshot p nodes target isPreemptionCandidate
      else rounds
    | viable =>
      let (status, _) :=
        Framework.runPreScores s.framework.preScores { snapshot } p viable
      if status.isSuccess then rounds + 1 else rounds

end Scheduler

end PodPlacement
