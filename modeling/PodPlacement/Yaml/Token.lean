/-!
The tokens of a YAML text. Outside brackets the nesting is told by indentation, so the tokens that
open and close a level stand for no characters of their own.
-/

namespace PodPlacement.Yaml

inductive Token
  | version (major minor : Nat)
  | tagHandle (handle : String)
  | documentStart
  | documentEnd
  | blockList
  | blockRecord
  | blockEnd
  | flowList
  | flowListEnd
  | flowRecord
  | flowRecordEnd
  | comma
  | item
  | key
  | value
  | anchor (name : String)
  | alias (name : String)
  | tag (handle : String)
  | scalar (plain : Bool) (text : String)
deriving DecidableEq, Repr, Inhabited

end PodPlacement.Yaml
