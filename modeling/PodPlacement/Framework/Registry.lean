import PodPlacement.Error
import PodPlacement.Framework.Plugin

/-!
The plugins that can be chosen, by name. A factory builds the plugin when it is needed and may fail.
-/

namespace PodPlacement

abbrev PluginFactory := Except SchedulingError Plugin

structure Registry where
  factories : Table PluginFactory := ∅

namespace Registry

def empty : Registry := {}

def ofPlugins (plugins : List Plugin) : Registry where
  factories := .ofList (plugins.map fun p ↦ (p.name, .ok p))

def contains (r : Registry) (name : String) : Bool := r.factories.contains name

def names (r : Registry) : List String := r.factories.keys

def taken (name suggestion : String) : SchedulingError :=
  .framework ("a plugin named " ++ name ++ " already exists") suggestion

def register (r : Registry) (name : String) (f : PluginFactory) :
    Except SchedulingError Unit × Registry :=
  if r.contains name then (.error (taken name "Register each plugin under a unique name"), r)
  else (.ok (), { factories := r.factories.insert name f })

def unregister (r : Registry) (name : String) : Except SchedulingError Unit × Registry :=
  if r.contains name then (.ok (), { factories := r.factories.erase name })
  else (.error (.framework ("no plugin named " ++ name ++ " exists")
      "Check the registered plugin names"), r)

def mergeEntries (r : Registry) :
    List (String × PluginFactory) → Except SchedulingError Unit × Registry
  | [] => (.ok (), r)
  | (name, f) :: rest =>
    if r.contains name then
      (.error (taken name "Out-of-tree plugins must not reuse in-tree plugin names"), r)
    else mergeEntries { factories := r.factories.insert name f } rest

/-- Moves the factories of `other` over in the order of their names, up to the first name that is
taken; those moved by then stay. -/
def merge (r other : Registry) : Except SchedulingError Unit × Registry :=
  r.mergeEntries other.factories.entries

end Registry

end PodPlacement
