import PodPlacement.Object.Node
import PodPlacement.Resource.Quantity
import PodPlacement.Text.Blank
import PodPlacement.Word

/-!
Amounts of every resource side by side: what a pod asks for, what a node offers, what is held back.
The three native resources, the pod limit and the extended resources are kept apart. Each amount is
an integer of 64 bits, and so is what is made of them.
-/

namespace PodPlacement

/-- CPU in thousandths of a core, memory and ephemeral storage in bytes, pods as a count. -/
structure Amounts where
  cpu : Int := 0
  memory : Int := 0
  ephemeral : Int := 0
  pods : Int := 0
  extended : Table Int := ∅
deriving DecidableEq, Repr, Inhabited

namespace Amounts

def zero : Amounts := {}

/-- Combines the amount of one named resource with `value`; an extended resource counts as zero
until it is first named. -/
def update (f : Int → Int → Int) (q : Amounts) (name : String) (value : Int) : Amounts :=
  match name with
  | "cpu" => { q with cpu := f q.cpu value }
  | "memory" => { q with memory := f q.memory value }
  | "ephemeral-storage" => { q with ephemeral := f q.ephemeral value }
  | "pods" => { q with pods := f q.pods value }
  | name => { q with extended := q.extended.adjust name fun old ↦ f (old.getD 0) value }

def addList (q : Amounts) (list : ResourceList) : Amounts :=
  list.foldl (fun q name text ↦ q.update Word.add name (Quantity.ofNamed name text)) q

def raiseTo (q : Amounts) (list : ResourceList) : Amounts :=
  list.foldl (fun q name text ↦ q.update max name (Quantity.ofNamed name text)) q

def ofList (list : ResourceList) : Amounts := zero.addList list

def zipExtended (f : Int → Int → Int) (a b : Table Int) : Table Int :=
  b.foldl (fun t name value ↦ t.adjust name fun old ↦ f (old.getD 0) value) a

def add (a b : Amounts) : Amounts where
  cpu := Word.add a.cpu b.cpu
  memory := Word.add a.memory b.memory
  ephemeral := Word.add a.ephemeral b.ephemeral
  pods := Word.add a.pods b.pods
  extended := zipExtended Word.add a.extended b.extended

instance : Add Amounts := ⟨add⟩

def monus (a b : Int) : Int := max (Word.sub a b) 0

/-- The difference, no less than zero in any resource that `b` names. -/
def sub (a b : Amounts) : Amounts where
  cpu := monus a.cpu b.cpu
  memory := monus a.memory b.memory
  ephemeral := monus a.ephemeral b.ephemeral
  pods := monus a.pods b.pods
  extended := zipExtended monus a.extended b.extended

instance : Sub Amounts := ⟨sub⟩

def isZero (q : Amounts) : Bool := q.cpu == 0 && q.memory == 0 && q.ephemeral == 0

def covers (q request : Amounts) : Bool :=
  request.cpu ≤ q.cpu && request.memory ≤ q.memory && request.ephemeral ≤ q.ephemeral

/-! ### Reservations -/

def toReservation (q : Amounts) : String :=
  toString q.cpu ++ "," ++ toString q.memory ++ "," ++ toString q.ephemeral

def ofReservation (s : String) : Except ClusterError Amounts :=
  let fields := (s.toList.splitOn ',').mapM fun f ↦
    Text.readInteger .signed64 (Text.trim f)
  match fields with
  | .ok [cpu, memory, ephemeral] => .ok { cpu, memory, ephemeral }
  | .ok _ => .error (.invalidQuantity s "reservation must have three comma separated fields")
  | .error e => .error (.invalidQuantity s ("bad reservation: " ++ e.message))

end Amounts

end PodPlacement
