import PodPlacement.Framework.Scoring
import PodPlacement.Random.Shuffle
import PodPlacement.Scheduling.HostChoice
import PodPlacement.Scheduling.Sampling
import PodPlacement.Scheduling.Settings
import PodPlacement.Scheduling.Victim

/-!
One scheduling attempt: find the nodes that accept the pod and take the best of them, or else look
for a node that would accept it once another pod is gone.
-/

namespace PodPlacement

structure Decision where
  host : String
  victim : Option Pod := none
deriving Inhabited

structure Scheduler where
  framework : Framework
  settings : SchedulerSettings
  binder : VolumeBinder := permissiveBinder
  exp : Float → Float := Float.exp
  usage : Usage
  random : Generator
  /-- The snapshot of the latest attempt. -/
  published : Snapshot := .empty

namespace Scheduler

def build (registry : Registry) (settings : SchedulerSettings) (binder : VolumeBinder)
    (entropy : Nat) : Except SchedulingError Scheduler := do
  let framework ← Framework.ofPlugins registry settings.plugins
  return { framework, settings, binder, usage := .fresh settings.usageResetThreshold,
           random := .ofSeed (settings.seed.getD entropy) }

def surroundings (s : Scheduler) : Surroundings :=
  { binder := s.binder, usage := s.usage, exp := s.exp }

/-! ### Judging nodes -/

def fits (verdicts : Table Status) : Bool := verdicts.isEmpty

/-- A node that only lacks resources can be freed by evicting a pod. -/
def isPreemptionCandidate (verdicts : Table Status) : Bool :=
  verdicts.size == 1 && (verdicts.get? Plugins.NodeResourcesFit.name).any (·.isUnschedulable)

/-- Runs the filters on fresh notes; `none` when a plugin rules the pod out beforehand. -/
def verdicts? (s : Scheduler) (snapshot : Snapshot) (p : Pod) (n : NodeInfo) :
    Option (Table Status) :=
  let (status, state) := Framework.runPreFilters s.framework.preFilters { snapshot } p
  if status.isSuccess then
    some (Framework.runFilters s.framework.filters s.surroundings state p n)
  else none

def admits (s : Scheduler) (snapshot : Snapshot) (p : Pod) (test : Table Status → Bool)
    (n : NodeInfo) : Bool :=
  (s.verdicts? snapshot p n).any test

/-- The nodes whose verdicts pass the test: all of them in order, or a sample. Each node is judged
by a task of its own, which knows the node's place in the list. -/
def evaluateNodes (s : Scheduler) (arrive : Arrival (NodeInfo × Nat)) (snapshot : Snapshot)
    (p : Pod) (nodes : List NodeInfo) (target : Option Nat) (test : Table Status → Bool) :
    List NodeInfo :=
  match target with
  | none => examineAll (s.admits snapshot p test) arrive nodes
  | some target =>
    (sample (fun e ↦ s.admits snapshot p test e.1) target arrive [] nodes.zipIdx).map (·.1)

/-! ### Ranking nodes -/

def addScores (totals : List NodeScore) (scores : List NodeScore) : List NodeScore :=
  totals.zipWith (fun t s ↦ { t with score := Word.add t.score s.score }) scores ++
    totals.drop scores.length

def prioritizeNodes (s : Scheduler) (snapshot : Snapshot) (p : Pod) (nodes : List NodeInfo) :
    Except SchedulingError (List NodeScore) :=
  let (status, state) := Framework.runPreScores s.framework.preScores { snapshot } p nodes
  if status.isSuccess then
    match Framework.runScores s.framework.scores s.surroundings state p nodes with
    | .ok perPlugin =>
      .ok (perPlugin.values.foldl addScores (nodes.map fun n ↦ ⟨n.name, 0⟩))
    | .error status => .error (.plugin status.message)
  else .error (.plugin status.message)

/-! ### Deciding -/

def nominate (p : Pod) (candidates : List NodeInfo) : Option Decision :=
  candidates.findSome? fun n ↦ (n.selectVictim p).map fun victim ↦ ⟨n.name, some victim⟩

def findPreemption (s : Scheduler) (arrive : Arrival (NodeInfo × Nat)) (key : WorkloadKey)
    (snapshot : Snapshot) (p : Pod) (nodes : List NodeInfo) (target : Option Nat) :
    Except SchedulingError Decision :=
  let refuse (why : String) : Except SchedulingError Decision :=
    .error (.unschedulable key.text
      ("0/" ++ toString nodes.length ++ " nodes are available: " ++ why))
  if s.settings.disablePreemption then refuse "preemption is disabled"
  else if p.priority = 0 then
    refuse "no schedulable node and pod has no priority to preempt with"
  else if !p.canPreempt then
    refuse "no schedulable node and pod preemption policy is Never"
  else
    match s.evaluateNodes arrive snapshot p nodes target isPreemptionCandidate with
    | [] => .error (.preemptionExhausted key.text "no node is rejected by resource fit alone")
    | candidates =>
      match nominate p candidates with
      | some decision => .ok decision
      | none => .error (.preemptionExhausted key.text
          ("no eligible victim on " ++ toString candidates.length ++ " candidate node(s)"))

def arrange (s : Scheduler) (snapshot : Snapshot) : List NodeInfo × Option Nat × Generator :=
  let total := snapshot.nodes.length
  if s.settings.largeClusterThreshold < total then
    let (nodes, g) := shuffle snapshot.nodes s.random
    (nodes, some (sampleSize s.settings.samplingPercentage total), g)
  else (snapshot.nodes, none, s.random)

/-- Publishes the snapshot and decides on it. A node that is chosen counts as used once more. The
nodes are looked at once for the pod to fit, and perhaps once more for pods to evict; `fitting` and
`freeing` are the orders in which the results of the two rounds come in. -/
def schedule (s : Scheduler) (fitting freeing : Arrival (NodeInfo × Nat)) (snapshot : Snapshot)
    (p : Pod) : Except SchedulingError Decision × Scheduler :=
  match WorkloadKey.ofPod p with
  | .error e => (.error (.cluster e), s)
  | .ok key =>
    let s := { s with published := snapshot }
    if snapshot.nodes.isEmpty then
      (.error (.unschedulable key.text "no nodes available"), s)
    else
      let (nodes, target, random) := s.arrange snapshot
      let s := { s with random }
      match s.evaluateNodes fitting snapshot p nodes target fits with
      | [] => (s.findPreemption freeing key snapshot p nodes target, s)
      | viable =>
        match s.prioritizeNodes snapshot p viable with
        | .error e => (.error e, s)
        | .ok scores =>
          match selectHost Generator.below s.random scores with
          | (none, random) =>
            (.error (.internal "no score produced for viable nodes"), { s with random })
          | (some host, random) =>
            (.ok { host }, { s with random, usage := s.usage.increase host })

end Scheduler

end PodPlacement
