import PodPlacement.Config.Flags

/-!
The command line: `config` prints the configuration that the flags, the environment and the file
come to.
-/

namespace PodPlacement

def UsageError.message : UsageError → String
  | unknownArgument => "unexpected argument"
  | invalidValue => "a value is required"
  | valueValidation => "invalid value"
  | argumentConflict => "an argument cannot be used multiple times"
  | tooManyValues => "unexpected value"
  | displayHelp =>
    "Usage: corral config " ++
      " ".intercalate (Flag.all.map fun f ↦ "[--" ++ f.name ++ " <VALUE>]") ++
      " [--" ++ CommandLine.disableFlag ++ "]"

namespace CommandLine

def environmentNames : List String := Flag.all.filterMap Flag.envName?

def readEnvironment : IO (List (String × String)) :=
  environmentNames.filterMapM fun name ↦ do
    return (← IO.getEnv name).map (name, ·)

def readFile? (path : String) : IO (Option String) := do
  try
    return some (← IO.FS.readFile path)
  catch _ =>
    return none

def printConfig (args : List String) : IO UInt32 := do
  let env ← readEnvironment
  match (parse args fun name ↦ env.lookup name) with
  | .error .displayHelp =>
    IO.println UsageError.displayHelp.message
    return 0
  | .error e =>
    IO.eprintln ("error: " ++ e.message)
    return 2
  | .ok line =>
    let file ← line.configFile?.mapM fun path ↦ do return (path, ← readFile? path)
    match Config.resolve file line.overrides with
    | .ok c =>
      IO.print c.render
      return 0
    | .error e =>
      IO.eprintln ("error: " ++ e.message)
      return 1

end CommandLine

end PodPlacement

def main (args : List String) : IO UInt32 :=
  match args with
  | "config" :: rest => PodPlacement.CommandLine.printConfig rest
  | _ => do
    IO.eprintln ("error: " ++ PodPlacement.UsageError.unknownArgument.message)
    return 2
