import PodPlacement.Framework.Run

/-!
Scoring nodes side by side, one task for each node. The first failure calls the other tasks off:
each looks for that call before it starts a plugin, and a task may start one after another task has
failed and before the call is out. The steps of the tasks may come in any order.
-/

namespace PodPlacement

structure NodeScore where
  name : String
  score : Int
deriving DecidableEq, Repr, Inhabited

/-- Where a task stands: before a plugin, with a plugin at work, with a failure to call out, or at
its end. -/
inductive ScorePhase
  | looking
  | working
  | calling
  | done
deriving DecidableEq, Repr

structure ScoreTask where
  node : NodeInfo
  rest : List WeightedScore
  /-- The weighted scores so far, in the order of the plugins. -/
  scores : List Int := []
  phase : ScorePhase := .looking

structure ScoreRun where
  tasks : List ScoreTask
  failure : Option Status := none
  calledOff : Bool := false

namespace ScoreRun

def start (plugins : List WeightedScore) (nodes : List NodeInfo) : ScoreRun where
  tasks := nodes.map fun node ↦ { node, rest := plugins }

/-- The weighted score of the node, or the failure that a refusal or a score out of range is. -/
def evaluate (env : Surroundings) (state : CycleState) (p : Pod) (n : NodeInfo)
    (plugin : WeightedScore) : Except Status Int :=
  match plugin.run env state p n with
  | .ok score =>
    if minScore ≤ score ∧ score ≤ maxScore then .ok (Word.mul score plugin.weight)
    else .error (.error ("plugin " ++ plugin.name ++ " returned an invalid score " ++
      toString score ++ " for node " ++ n.name ++ ", it must be in the range [" ++
      toString minScore ++ ", " ++ toString maxScore ++ "]"))
  | .error status => .error (.error ("plugin " ++ plugin.name ++ " failed to score node " ++
      n.name ++ ": " ++ status.message))

def stepTask (env : Surroundings) (state : CycleState) (p : Pod) (r : ScoreRun) (i : Nat)
    (t : ScoreTask) : ScoreRun :=
  match t.phase, t.rest with
  | .looking, [] => { r with tasks := r.tasks.set i { t with phase := .done } }
  | .looking, _ :: _ =>
    let phase := if r.calledOff then .done else .working
    { r with tasks := r.tasks.set i { t with phase } }
  | .working, plugin :: rest =>
    match evaluate env state p t.node plugin with
    | .ok score =>
      let t := { t with rest, scores := t.scores ++ [score], phase := .looking }
      { r with tasks := r.tasks.set i t }
    | .error failure =>
      { r with
        tasks := r.tasks.set i { t with phase := .calling }
        failure := r.failure.or (some failure) }
  | .working, [] => r
  | .calling, _ =>
    { r with tasks := r.tasks.set i { t with phase := .done }, calledOff := true }
  | .done, _ => r

def step (env : Surroundings) (state : CycleState) (p : Pod) (r : ScoreRun) (i : Nat) : ScoreRun :=
  match r.tasks[i]? with
  | some t => stepTask env state p r i t
  | none => r

def steps (env : Surroundings) (state : CycleState) (p : Pod) (r : ScoreRun)
    (schedule : List Nat) : ScoreRun :=
  schedule.foldl (step env state p) r

def isFinished (r : ScoreRun) : Bool := r.tasks.all (·.phase == .done)

def inTurn (plugins nodes : Nat) : List Nat :=
  (List.range nodes).flatMap fun i ↦ List.replicate (2 * plugins + 2) i

def result (plugins : List WeightedScore) (r : ScoreRun) :
    Except Status (Table (List NodeScore)) :=
  match r.failure with
  | some status => .error status
  | none =>
    .ok (.ofList (plugins.zipIdx.map fun (plugin, k) ↦
      (plugin.name, r.tasks.map fun t ↦ ⟨t.node.name, (t.scores[k]?).getD 0⟩)))

end ScoreRun

namespace Framework

def runScores (plugins : List WeightedScore) (env : Surroundings) (state : CycleState) (p : Pod)
    (nodes : List NodeInfo) : Except Status (Table (List NodeScore)) :=
  ((ScoreRun.start plugins nodes).steps env state p
    (ScoreRun.inTurn plugins.length nodes.length)).result plugins

end Framework

end PodPlacement
