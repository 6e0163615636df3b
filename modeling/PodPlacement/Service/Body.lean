import PodPlacement.Json.Parser

/-!
The body of a message: bytes, which may be the UTF-8 of a text or not.
-/

namespace PodPlacement

inductive Body
  | text (s : String)
  | raw (bytes : List UInt8) (h : (ByteArray.mk bytes.toArray).validateUTF8 = false)
deriving DecidableEq, Repr, Inhabited

instance : Coe String Body := ⟨.text⟩

namespace Body

/-- The characters of the bytes, and `none` for each byte that is part of no character. -/
def characters : List UInt8 → List (Option Char)
  | [] => []
  | b :: bs =>
    match (ByteArray.mk (b :: bs.take 3).toArray).utf8DecodeChar? 0 with
    | some c => some c :: characters (bs.drop (c.utf8Size - 1))
    | none => none :: characters bs
termination_by bs => bs.length
decreasing_by all_goals simp only [List.length_drop, List.length_cons]; omega

/-- The text that is read in place of the bytes. A stray byte may only stand in a string that is
skipped, as half of a surrogate pair may; two second halves never become a pair. -/
def spell? : Bool → List (Option Char) → Option (List Char)
  | _, [] => some []
  | true, some '\\' :: some c :: cs => (spell? true cs).map fun cs ↦ '\\' :: c :: cs
  | true, some '\\' :: none :: _ => none
  | true, none :: cs => (spell? true cs).map ("\\udc00\\udc00".toList ++ ·)
  | false, none :: _ => none
  | inString, some c :: cs => (spell? (inString != (c == '"')) cs).map (c :: ·)

def json? : Body → Option Json
  | text s => Json.parse? s
  | raw bytes _ => (spell? false (characters bytes)).bind fun cs ↦ Json.parse? (String.ofList cs)

end Body

end PodPlacement
