import PodPlacement.Config.Basic
import PodPlacement.Text.Integer

/-!
Settings from the command line and from variables of the environment. A flag wins over a variable.
A value is looked at when the next flag begins, so an unknown flag is reported before a bad value
that stands before it.
-/

namespace PodPlacement

inductive UsageError
  | unknownArgument
  /-- A flag without a value, or a path that is empty. -/
  | invalidValue
  /-- A value that is no number of the right kind. -/
  | valueValidation
  /-- A flag that is given twice. -/
  | argumentConflict
  | tooManyValues
  | displayHelp
deriving DecidableEq, Repr

inductive Flag
  | configFile
  | apiUrl
  | schedulerName
  | receiveQueue
  | backoffQueue
  | hostname
  | maxBackoff
  | samplingPercentage
  | seed
deriving DecidableEq, Repr

inductive ValueKind
  | path
  | text
  | natural32
  | natural64
deriving DecidableEq, Repr

namespace Flag

def all : List Flag :=
  [configFile, apiUrl, schedulerName, receiveQueue, backoffQueue, hostname, maxBackoff,
    samplingPercentage, seed]

def name : Flag → String
  | configFile => "config"
  | apiUrl => "api-url"
  | schedulerName => "scheduler-name"
  | receiveQueue => "receive-queue"
  | backoffQueue => "retry-queue"
  | hostname => "hostname"
  | maxBackoff => "max-backoff"
  | samplingPercentage => "sampling-percentage"
  | seed => "seed"

def envName? : Flag → Option String
  | configFile => some "CORRAL_CONFIG"
  | apiUrl => some "CORRAL_API_URL"
  | schedulerName => some "CORRAL_SCHEDULER_NAME"
  | receiveQueue => some "RECEIVE_QUEUE"
  | backoffQueue => some "RETRY_QUEUE"
  | hostname => some "HOSTNAME"
  | maxBackoff => some "MAX_BACKOFF"
  | samplingPercentage => some "SAMPLING_PERCENTAGE"
  | seed => none

def kind : Flag → ValueKind
  | configFile => .path
  | maxBackoff | seed => .natural64
  | samplingPercentage => .natural32
  | _ => .text

def ofName? (s : String) : Option Flag := all.find? (·.name == s)

end Flag

namespace ValueKind

def natural64? (s : String) : Option Nat :=
  (Text.readInteger .unsigned64 s.toList).toOption.map Int.toNat

/-- A number of 32 bits; it may have any sign that leaves it one. -/
def natural32? (s : String) : Option Nat :=
  ((Text.readInteger .signed64 s.toList).toOption.filter Text.IntegerRange.unsigned32.contains).map
    Int.toNat

def check (s : String) : ValueKind → Except UsageError Unit
  | path => if s.isEmpty then .error .invalidValue else .ok ()
  | text => .ok ()
  | natural32 => if (natural32? s).isSome then .ok () else .error .valueValidation
  | natural64 => if (natural64? s).isSome then .ok () else .error .valueValidation

end ValueKind

structure CommandLine where
  /-- A flag that was begun, with its value once that has been seen. -/
  pending : Option (Flag × Option String) := none
  given : List (Flag × String) := []
  disablePreemption : Bool := false
  /-- Past the mark that ends the flags. -/
  escaped : Bool := false
deriving DecidableEq, Repr

namespace CommandLine

def give (c : CommandLine) (f : Flag) (value : String) : Except UsageError CommandLine := do
  if (c.given.lookup f).isSome then throw .argumentConflict
  f.kind.check value
  return { c with given := c.given ++ [(f, value)] }

def settle (c : CommandLine) : Except UsageError CommandLine :=
  match c.pending with
  | none => .ok c
  | some (_, none) => .error .invalidValue
  | some (f, some value) => give { c with pending := none } f value

def disableFlag : String := "disable-preemption"

def helpFlag : String := "help"

def long (c : CommandLine) (name : String) (value : Option String) :
    Except UsageError CommandLine :=
  if name = helpFlag ∨ name = disableFlag then
    match value with
    | some _ => .error .tooManyValues
    | none => do
      let c ← c.settle
      if name = helpFlag then throw .displayHelp
      if c.disablePreemption then throw .argumentConflict
      return { c with disablePreemption := true }
  else
    match Flag.ofName? name, value with
    | none, _ => .error .unknownArgument
    | some f, some value => do (← c.settle).give f value
    | some f, none => do return { ← c.settle with pending := some (f, none) }

def splitValue (cs : List Char) : String × Option String :=
  let name := String.ofList (cs.takeWhile (· != '='))
  match cs.dropWhile (· != '=') with
  | _ :: value => (name, some (String.ofList value))
  | [] => (name, none)

def argument (c : CommandLine) (s : String) : Except UsageError CommandLine :=
  if c.escaped then .error .unknownArgument
  else
    match s.toList with
    | ['-', '-'] => .ok { c with escaped := true }
    | '-' :: '-' :: cs =>
      let (name, value) := splitValue cs
      c.long name value
    | '-' :: 'h' :: _ => do
      let _ ← c.settle
      throw .displayHelp
    | '-' :: _ :: _ => .error .unknownArgument
    | _ =>
      match c.pending with
      | some (f, none) => .ok { c with pending := some (f, some s) }
      | _ => .error .unknownArgument

def environment (env : String → Option String) (c : CommandLine) :
    List Flag → Except UsageError CommandLine
  | [] => .ok c
  | f :: rest =>
    match c.given.lookup f, f.envName?.bind env with
    | none, some value => do environment env (← c.give f value) rest
    | _, _ => environment env c rest

def parse (args : List String) (env : String → Option String) : Except UsageError CommandLine := do
  let c ← args.foldlM argument {}
  environment env (← c.settle) Flag.all

def value? (c : CommandLine) (f : Flag) : Option String := c.given.lookup f

def natural? (c : CommandLine) (f : Flag) : Option Nat :=
  (c.value? f).bind fun s ↦
    match f.kind with
    | .natural32 => ValueKind.natural32? s
    | _ => ValueKind.natural64? s

def configFile? (c : CommandLine) : Option String := c.value? .configFile

def overrides (c : CommandLine) : Overrides where
  apiUrl := c.value? .apiUrl
  schedulerName := c.value? .schedulerName
  receiveQueue := c.value? .receiveQueue
  backoffQueue := c.value? .backoffQueue
  hostname := c.value? .hostname
  maxBackoff := c.natural? .maxBackoff
  samplingPercentage := c.natural? .samplingPercentage
  seed := c.natural? .seed
  disablePreemption := c.disablePreemption

end CommandLine

end PodPlacement
