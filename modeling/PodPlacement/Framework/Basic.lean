import PodPlacement.Framework.PluginSet
import PodPlacement.Framework.Registry

/-!
A framework: the plugins of a plugin set, ready to run at each point. Putting one together starts
each plugin that the set names once and refuses sets that name a plugin twice at one point, or one
that is unknown or has nothing to say there.
-/

namespace PodPlacement

structure Named (α : Type) where
  name : String
  run : α

structure WeightedScore where
  name : String
  weight : Int
  run : Score

structure Framework where
  preFilters : List (Named PreFilter) := []
  filters : List (Named Filter) := []
  preScores : List (Named PreScore) := []
  scores : List WeightedScore := []
  /-- The plugins that were started, in order. -/
  started : List String := []

inductive Point
  | preFilter
  | filter
  | preScore
  | score
deriving DecidableEq, Repr

def Point.text : Point → String
  | preFilter => "PreFilter"
  | filter => "Filter"
  | preScore => "PreScore"
  | score => "Score"

namespace Framework

def start (wanted : List String) :
    List (String × PluginFactory) → Except SchedulingError (List (String × Plugin))
  | [] => .ok []
  | (name, factory) :: rest =>
    if wanted.contains name then
      match factory with
      | .ok p => (start wanted rest).map ((name, p) :: ·)
      | .error e => .error (.framework ("initializing plugin " ++ name ++ ": " ++ e.message)
          "Check the plugin's requirements on the framework handle")
    else start wanted rest

/-- The plugins of one point in the order of their choice; `seen` holds the names before. -/
def assign {α : Type} (point : Point) (instances : List (String × Plugin))
    (cast : Plugin → Option α) (seen : List String) :
    List PluginChoice → Except SchedulingError (List (Named α))
  | [] => .ok []
  | choice :: rest =>
    if seen.contains choice.name then
      .error (.framework ("plugin " ++ choice.name ++ " already registered as " ++ point.text)
        "List each plugin at most once per extension point")
    else
      match instances.lookup choice.name with
      | none =>
        .error (.framework (point.text ++ " plugin " ++ choice.name ++ " does not exist")
          "Register the plugin before enabling it")
      | some p =>
        match cast p with
        | none =>
          .error (.framework
            ("plugin " ++ choice.name ++ " does not extend " ++ point.text ++ " plugin")
            ("Remove " ++ choice.name ++ " from the " ++ point.text ++ " list"))
        | some run =>
          (assign point instances cast (choice.name :: seen) rest).map (⟨p.name, run⟩ :: ·)

def weigh : List (Named Score × PluginChoice) → Except SchedulingError (List WeightedScore)
  | [] => .ok []
  | (plugin, choice) :: rest =>
    if choice.weight < 1 then
      .error (.framework
        ("score plugin " ++ choice.name ++ " has weight " ++ toString choice.weight)
        "Score plugin weights must be at least 1")
    else (weigh rest).map (⟨plugin.name, choice.weight, plugin.run⟩ :: ·)

def ofPlugins (registry : Registry) (set : PluginSet) : Except SchedulingError Framework := do
  let instances ← start set.names registry.factories.entries
  let preFilters ← assign .preFilter instances (·.preFilter) [] set.preFilter
  let filters ← assign .filter instances (·.filter) [] set.filter
  let preScores ← assign .preScore instances (·.preScore) [] set.preScore
  let scorers ← assign .score instances (·.score) [] set.score
  let scores ← weigh (scorers.zip set.score)
  return { preFilters, filters, preScores, scores, started := instances.map (·.1) }

end Framework

end PodPlacement
