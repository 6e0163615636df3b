import Mathlib.Data.Nat.Basic
import Mathlib.Data.Option.Basic
import PodPlacement.Json.Parser
import PodPlacement.Json.Printer
import PodPlacement.Proofs.Text.Integer

/-!
Values that are written as text are read back as they were, except for the numbers that are no
integers of 64 bits.
-/

namespace PodPlacement.Json

open Text

/-! ### Strings -/

theorem hexQuad?_hexDigit : ∀ n < 32,
    hexQuad? '0' '0' (hexDigit (n / 16)) (hexDigit n) = some n := by decide

theorem readUnits_simple {e c : Char} (rest : List Char) (hu : e ≠ 'u')
    (he : simpleEscape? e = some c) :
    readUnits ('\\' :: e :: rest) = (readUnits rest).map fun p ↦ (.char c :: p.1, p.2) := by
  rw [readUnits]
  · rw [he]
    cases readUnits rest <;> rfl
  · intro a b c' d cs heq
    exact absurd heq hu

theorem readUnits_escapeChar (c : Char) (rest : List Char) :
    readUnits (escapeChar c ++ rest) = (readUnits rest).map fun p ↦ (.char c :: p.1, p.2) := by
  unfold escapeChar
  split
  · exact readUnits_simple rest (by decide) rfl
  · exact readUnits_simple rest (by decide) rfl
  · exact readUnits_simple rest (by decide) rfl
  · exact readUnits_simple rest (by decide) rfl
  · exact readUnits_simple rest (by decide) rfl
  · exact readUnits_simple rest (by decide) rfl
  · exact readUnits_simple rest (by decide) rfl
  · next hquote hbackslash _ _ _ _ _ =>
    split
    · next hlow =>
      have hunit : unit16 c.toNat = .char c := by
        unfold unit16
        rw [if_neg (by omega), if_neg (by omega), Char.ofNat_toNat]
      change readUnits ('\\' :: 'u' :: '0' :: '0' :: _ :: _ :: rest) = _
      rw [readUnits, hexQuad?_hexDigit c.toNat hlow]
      cases readUnits rest <;> simp [hunit]
    · next hhigh =>
      change readUnits (c :: rest) = _
      rw [readUnits]
      · rw [if_neg (not_or.2 ⟨hhigh, hbackslash⟩)]
        cases readUnits rest <;> rfl
      · exact hquote
      · intro _ _ _ _ _ heq
        exact absurd heq hbackslash
      · intro _ _ heq
        exact absurd heq hbackslash

theorem readUnits_escaped (cs rest : List Char) :
    readUnits (cs.flatMap escapeChar ++ '"' :: rest) = some (cs.map .char, rest) := by
  induction cs with
  | nil => rfl
  | cons c cs ih =>
    rw [List.flatMap_cons, List.append_assoc, readUnits_escapeChar, ih]
    rfl

theorem joinUnits_chars (cs : List Char) : joinUnits (cs.map .char) = some cs := by
  induction cs with
  | nil => rfl
  | cons c cs ih =>
    rw [List.map_cons, joinUnits, ih]
    rfl

theorem readString_escaped (s : String) (rest : List Char) :
    readString (s.toList.flatMap escapeChar ++ '"' :: rest) = some (some s, rest) := by
  unfold readString
  rw [readUnits_escaped]
  simp only [Option.bind_eq_bind, Option.bind_some, joinUnits_chars, Option.map_some,
    String.ofList_toList, Option.pure_def]

/-! ### Numbers -/

def Bounded (rest : List Char) : Prop :=
  ∀ c cs, rest = c :: cs → c.isDigit = false ∧ c ≠ '.' ∧ c ≠ 'e' ∧ c ≠ 'E'

theorem fillSignificand_eq {cs : List Char} {n : Nat}
    (h : Nat.ofDigitChars 10 cs n < 0x10000000000000000) :
    fillSignificand n cs = (Nat.ofDigitChars 10 cs n, 0) := by
  induction cs generalizing n with
  | nil => rfl
  | cons c cs ih =>
    rw [Nat.ofDigitChars_cons] at h ⊢
    have hnext : n * 10 + digitValue c = 10 * n + (c.toNat - '0'.toNat) := by
      rw [Nat.mul_comm]
      rfl
    have hgrows := le_ofDigitChars cs (10 * n + (c.toNat - '0'.toNat))
    unfold fillSignificand
    rw [hnext, if_pos (hgrows.trans_lt h)]
    exact ih h

theorem readDigits1_toDigits {n : Nat} {rest : List Char} (hrest : Bounded rest) :
    readDigits1 (Nat.toDigits 10 n ++ rest) = some (Nat.toDigits 10 n, rest) := by
  have hdigits : ∀ c ∈ Nat.toDigits 10 n, c.isDigit = true := fun c ↦ isDigit_of_mem_toDigits
  have hstop : rest.takeWhile Char.isDigit = [] ∧ rest.dropWhile Char.isDigit = rest := by
    cases rest with
    | nil => exact ⟨rfl, rfl⟩
    | cons c cs =>
      have hc := Bool.eq_false_iff.1 (hrest c cs rfl).1
      exact ⟨List.takeWhile_cons_of_neg hc, List.dropWhile_cons_of_neg hc⟩
  unfold readDigits1
  rw [List.takeWhile_append_of_pos hdigits, List.dropWhile_append_of_pos hdigits, hstop.1, hstop.2,
    List.append_nil]
  dsimp only
  rw [if_neg]
  exact fun hempty ↦ Nat.toDigits_ne_nil (List.isEmpty_iff.1 hempty)

theorem readWhole_toDigits {n : Nat} {rest : List Char} (hrest : Bounded rest) :
    readWhole (Nat.toDigits 10 n ++ rest) = some (Nat.toDigits 10 n, rest) := by
  unfold readWhole
  rw [readDigits1_toDigits hrest]
  have hlead : ¬ ((Nat.toDigits 10 n).head? = some '0' ∧ 1 < (Nat.toDigits 10 n).length) := by
    rintro ⟨hzero, hlong⟩
    by_cases hn : n = 0
    · rw [hn] at hlong
      exact absurd hlong (by decide)
    · exact head_toDigits hn hzero
  simp only [Option.bind_eq_bind, Option.bind_some, hlead, if_false, Option.pure_def]

theorem readFraction_bounded {rest : List Char} (hrest : Bounded rest) :
    readFraction rest = some ([], rest) := by
  unfold readFraction
  split
  · exact absurd rfl (hrest _ _ rfl).2.1
  · rfl

theorem readExponent_bounded {rest : List Char} (hrest : Bounded rest) :
    readExponent rest = some (none, rest) := by
  unfold readExponent
  split
  · next c cs =>
    obtain ⟨_, _, he, hE⟩ := hrest c cs rfl
    rw [if_neg (not_or.2 ⟨he, hE⟩)]
  · rfl

theorem makeNumber_nat {n : Nat} (hn : n < 0x10000000000000000) :
    makeNumber false (Nat.toDigits 10 n) [] none = .int n := by
  have hfill : fillSignificand 0 (Nat.toDigits 10 n) = (n, 0) := by
    rw [fillSignificand_eq (by rwa [Nat.ofDigitChars_ten_toDigits]), Nat.ofDigitChars_ten_toDigits]
  unfold makeNumber
  rw [hfill]
  rfl

theorem readNumber_nat {n : Nat} {rest : List Char} (hn : n < 0x10000000000000000)
    (hrest : Bounded rest) : readNumber (Nat.toDigits 10 n ++ rest) = some (.int n, rest) := by
  obtain ⟨c, cs, hcs⟩ := List.exists_cons_of_ne_nil (Nat.toDigits_ne_nil (n := n) (b := 10))
  have hminus : c ≠ '-' := by
    rintro rfl
    have hdigit := isDigit_of_mem_toDigits (n := n) (hcs ▸ List.mem_cons_self ..)
    cases hdigit
  unfold readNumber
  split
  next negative unsigned hsign =>
  split at hsign
  · next heq =>
    rw [hcs, List.cons_append] at heq
    cases heq
    exact absurd rfl hminus
  · cases hsign
    simp only [readWhole_toDigits hrest, Option.bind_eq_bind, Option.bind_some,
      readFraction_bounded hrest, readExponent_bounded hrest, makeNumber_nat hn, Option.pure_def]

/-! ### Values -/

mutual

/-- Whether the value keeps to what every text can hold: its numbers are natural, of 64 bits. -/
def isPlain : Json → Bool
  | null | bool _ | str _ => true
  | int n => Text.IntegerRange.unsigned64.contains n
  | real _ | undenoted => false
  | arr items => allPlain items
  | obj members => membersPlain members

def allPlain : List Json → Bool
  | [] => true
  | j :: js => isPlain j && allPlain js

def membersPlain : List (String × Json) → Bool
  | [] => true
  | (_, j) :: ms => isPlain j && membersPlain ms

end

theorem makeObject_some (members : List (String × Json)) :
    makeObject (members.map fun m ↦ (some m.1, m.2)) = .obj members := by
  unfold makeObject
  have hkeys : (members.map fun m ↦ ((some m.1, m.2) : Option String × Json)).mapM
      (fun m ↦ m.1.map fun k ↦ (k, m.2)) = some members := by
    induction members with
    | nil => rfl
    | cons m ms ih =>
      rw [List.map_cons, List.mapM_cons, ih]
      rfl
  rw [hkeys]

theorem write_int {n : Int} (hn : isPlain (.int n) = true) :
    ∃ k : Nat, n = k ∧ k < 0x10000000000000000 ∧ (Json.int n).write = Nat.toDigits 10 k := by
  rw [isPlain, IntegerRange.contains, Bool.and_eq_true] at hn
  have hrange : 0 ≤ n ∧ n ≤ 0xffffffffffffffff :=
    hn.imp of_decide_eq_true of_decide_eq_true
  obtain ⟨k, rfl⟩ := Int.eq_ofNat_of_zero_le hrange.1
  exact ⟨k, rfl, by omega, toList_toString_natCast k⟩

structure Opens (c : Char) : Prop where
  blank : ¬ (c = ' ' ∨ c = '\n' ∨ c = '\r' ∨ c = '\t')
  bracket : c ≠ ']'

theorem opens_of_isDigit {c : Char} (h : c.isDigit = true) : Opens c := by
  refine ⟨?_, ?_⟩
  · rintro (rfl | rfl | rfl | rfl) <;> cases h
  · rintro rfl
    cases h

theorem write_opens {j : Json} (hj : isPlain j = true) :
    ∃ c cs, j.write = c :: cs ∧ Opens c := by
  cases j with
  | null => exact ⟨'n', _, rfl, by decide, by decide⟩
  | bool b => cases b <;> exact ⟨_, _, rfl, by decide, by decide⟩
  | int n =>
    obtain ⟨k, _, _, hwrite⟩ := write_int hj
    obtain ⟨c, cs, hcs⟩ := List.exists_cons_of_ne_nil (Nat.toDigits_ne_nil (n := k) (b := 10))
    exact ⟨c, cs, hwrite.trans hcs,
      opens_of_isDigit (isDigit_of_mem_toDigits (hcs ▸ List.mem_cons_self ..))⟩
  | real d => cases hj
  | str s => exact ⟨'"', _, rfl, by decide, by decide⟩
  | arr items => exact ⟨'[', _, rfl, by decide, by decide⟩
  | obj members => exact ⟨'\x7b', _, rfl, by decide, by decide⟩
  | undenoted => cases hj

theorem skipBlanks_opens {c : Char} (h : Opens c) (cs : List Char) :
    skipBlanks (c :: cs) = c :: cs := by
  rw [skipBlanks, if_neg h.blank]

theorem readValue_number {c : Char} (h : c.isDigit = true) (fuel : Nat) (cs : List Char) :
    readValue (fuel + 1) (c :: cs) = readNumber (c :: cs) := by
  have hne {d : Char} (hd : d.isDigit = false) : c ≠ d := by
    rintro rfl
    rw [h] at hd
    cases hd
  rw [readValue, skipBlanks_opens (opens_of_isDigit h)]
  split
  · next heq => cases heq
  · next heq =>
    cases heq
    exact absurd rfl (hne (by decide))
  · next heq =>
    cases heq
    exact absurd rfl (hne (by decide))
  · next heq =>
    cases heq
    exact absurd rfl (hne (by decide))
  · next heq =>
    cases heq
    rw [if_neg (hne (by decide)), if_neg (hne (by decide)), if_neg (hne (by decide))]

theorem readValue_string (fuel : Nat) (cs : List Char) :
    readValue (fuel + 1) ('"' :: cs) =
      (readString cs).map fun (s, rest) ↦ (s.elim .undenoted .str, rest) := rfl

theorem readValue_items {c : Char} (h : Opens c) (fuel : Nat) (cs : List Char) :
    readValue (fuel + 1) ('[' :: c :: cs) =
      (readItems fuel (c :: cs)).map fun (items, rest) ↦ (.arr items, rest) := by
  have hbracket : skipBlanks ('[' :: c :: cs) = '[' :: c :: cs := rfl
  rw [readValue, hbracket]
  split
  · next heq => cases heq
  · next heq => cases heq
  · next heq =>
    cases heq
    rw [skipBlanks_opens h]
    split
    · next heq =>
      cases heq
      exact absurd rfl h.bracket
    · rfl
  · next heq => cases heq
  · next _ hother _ heq => exact absurd (List.cons.inj heq).1.symm hother

theorem readValue_members (fuel : Nat) (cs : List Char) :
    readValue (fuel + 1) ('\x7b' :: '"' :: cs) =
      (readMembers fuel ('"' :: cs)).map fun (members, rest) ↦ (makeObject members, rest) := rfl

theorem readItems_last {fuel : Nat} {cs rest : List Char} {item : Json}
    (h : readValue fuel cs = some (item, ']' :: rest)) :
    readItems (fuel + 1) cs = some ([item], rest) := by
  rw [readItems, h]
  rfl

theorem readItems_more {fuel : Nat} {cs rest : List Char} {item : Json}
    (h : readValue fuel cs = some (item, ',' :: rest)) :
    readItems (fuel + 1) cs = (readItems fuel rest).map fun p ↦ (item :: p.1, p.2) := by
  rw [readItems, h]
  change (readItems fuel rest).bind _ = _
  cases readItems fuel rest <;> rfl

def memberText (k : String) (j : Json) (rest : List Char) : List Char :=
  '"' :: (k.toList.flatMap escapeChar ++ '"' :: ':' :: (j.write ++ rest))

theorem readMembers_last {fuel : Nat} {k : String} {j : Json} {rest : List Char}
    (h : readValue fuel (j.write ++ '\x7d' :: rest) = some (j, '\x7d' :: rest)) :
    readMembers (fuel + 1) (memberText k j ('\x7d' :: rest)) = some ([(some k, j)], rest) := by
  unfold memberText
  rw [readMembers]
  change (readString _).bind _ = _
  rw [readString_escaped]
  change (readValue fuel _).bind _ = _
  rw [h]
  rfl

theorem readMembers_more {fuel : Nat} {k : String} {j : Json} {rest : List Char}
    (h : readValue fuel (j.write ++ ',' :: rest) = some (j, ',' :: rest)) :
    readMembers (fuel + 1) (memberText k j (',' :: rest)) =
      (readMembers fuel rest).map fun p ↦ ((some k, j) :: p.1, p.2) := by
  unfold memberText
  rw [readMembers]
  change (readString _).bind _ = _
  rw [readString_escaped]
  change (readValue fuel _).bind _ = _
  rw [h]
  change (readMembers fuel rest).bind _ = _
  cases readMembers fuel rest <;> rfl

theorem bounded_cons {c : Char} (h : c.isDigit = false ∧ c ≠ '.' ∧ c ≠ 'e' ∧ c ≠ 'E')
    (cs : List Char) : Bounded (c :: cs) := by
  rintro _ _ ⟨rfl, rfl⟩
  exact h

theorem sepBy_opens {item : Json} (hitem : isPlain item = true) (items : List Json) :
    ∃ c cs, sepBy ',' (writeAll (item :: items)) = c :: cs ∧ Opens c := by
  obtain ⟨c, cs, hwrite, hc⟩ := write_opens hitem
  cases items with
  | nil => exact ⟨c, cs, hwrite, hc⟩
  | cons next items =>
    refine ⟨c, cs ++ ',' :: sepBy ',' (writeAll (next :: items)), ?_, hc⟩
    rw [← List.cons_append, ← hwrite]
    rfl

theorem sepBy_quoted (m : String × Json) (members : List (String × Json)) :
    ∃ cs, sepBy ',' (writeMembers (m :: members)) = '"' :: cs := by
  cases members with
  | nil => exact ⟨_, rfl⟩
  | cons next members => exact ⟨_, rfl⟩

structure ReadsBack (fuel : Nat) : Prop where
  value : ∀ j rest, isPlain j = true → j.write.length < fuel → Bounded rest →
    readValue fuel (j.write ++ rest) = some (j, rest)
  items : ∀ items rest, items ≠ [] → allPlain items = true →
    (sepBy ',' (writeAll items)).length + 1 < fuel →
    readItems fuel (sepBy ',' (writeAll items) ++ ']' :: rest) = some (items, rest)
  members : ∀ members rest, members ≠ [] → membersPlain members = true →
    (sepBy ',' (writeMembers members)).length + 1 < fuel →
    readMembers fuel (sepBy ',' (writeMembers members) ++ '\x7d' :: rest) =
      some (members.map fun m ↦ (some m.1, m.2), rest)

variable {fuel : Nat}

theorem ReadsBack.value_succ (h : ReadsBack fuel) (j : Json) (rest : List Char)
    (hj : isPlain j = true) (hfuel : j.write.length < fuel + 1) (hrest : Bounded rest) :
    readValue (fuel + 1) (j.write ++ rest) = some (j, rest) := by
  match j, hj with
  | .null, _ => rfl
  | .bool true, _ => rfl
  | .bool false, _ => rfl
  | .int n, hj =>
    obtain ⟨k, rfl, hk, hwrite⟩ := write_int hj
    obtain ⟨c, cs, hcs⟩ := List.exists_cons_of_ne_nil (Nat.toDigits_ne_nil (n := k) (b := 10))
    have hdigit : c.isDigit = true := isDigit_of_mem_toDigits (hcs ▸ List.mem_cons_self ..)
    have hnumber := readNumber_nat hk hrest
    rw [hcs, List.cons_append] at hnumber
    rw [hwrite, hcs, List.cons_append, readValue_number hdigit, hnumber]
  | .str s, _ =>
    have htext : (Json.str s).write ++ rest =
        '"' :: (s.toList.flatMap escapeChar ++ '"' :: rest) := by
      simp only [write, writeString, List.cons_append, List.append_assoc, List.nil_append]
    rw [htext, readValue_string, readString_escaped]
    rfl
  | .arr [], _ => rfl
  | .arr (item :: items), hj =>
    have htext : (Json.arr (item :: items)).write ++ rest =
        '[' :: (sepBy ',' (writeAll (item :: items)) ++ ']' :: rest) := by
      simp only [write, List.cons_append, List.append_assoc, List.nil_append]
    have hlength : (sepBy ',' (writeAll (item :: items))).length + 1 < fuel := by
      simp only [write, List.length_cons, List.length_append, List.length_nil] at hfuel
      omega
    have hread := h.items (item :: items) rest nofun hj hlength
    obtain ⟨c, cs, hopen, hc⟩ := sepBy_opens (Bool.and_eq_true_iff.1 hj).1 items
    rw [hopen] at hread
    rw [htext, hopen, List.cons_append, readValue_items hc, ← List.cons_append, hread]
    rfl
  | .obj [], _ => rfl
  | .obj (m :: members), hj =>
    have htext : (Json.obj (m :: members)).write ++ rest =
        '\x7b' :: (sepBy ',' (writeMembers (m :: members)) ++ '\x7d' :: rest) := by
      simp only [write, List.cons_append, List.append_assoc, List.nil_append]
    have hlength : (sepBy ',' (writeMembers (m :: members))).length + 1 < fuel := by
      simp only [write, List.length_cons, List.length_append, List.length_nil] at hfuel
      omega
    have hread := h.members (m :: members) rest nofun hj hlength
    obtain ⟨cs, hquote⟩ := sepBy_quoted m members
    rw [hquote] at hread
    rw [htext, hquote, List.cons_append, readValue_members, ← List.cons_append, hread]
    exact congrArg (fun j ↦ some (j, rest)) (makeObject_some (m :: members))

theorem ReadsBack.items_succ (h : ReadsBack fuel) (items : List Json) (rest : List Char)
    (hne : items ≠ []) (hitems : allPlain items = true)
    (hfuel : (sepBy ',' (writeAll items)).length + 1 < fuel + 1) :
    readItems (fuel + 1) (sepBy ',' (writeAll items) ++ ']' :: rest) = some (items, rest) := by
  match items, hitems with
  | [], _ => exact absurd rfl hne
  | [item], hitems =>
    have hlength : item.write.length < fuel := by
      simp only [writeAll, sepBy] at hfuel
      omega
    exact readItems_last (h.value item (']' :: rest) (Bool.and_eq_true_iff.1 hitems).1 hlength
      (bounded_cons (by decide) rest))
  | item :: next :: items, hitems =>
    obtain ⟨hitem, hnext⟩ := Bool.and_eq_true_iff.1 hitems
    have htext : sepBy ',' (writeAll (item :: next :: items)) =
        item.write ++ ',' :: sepBy ',' (writeAll (next :: items)) := rfl
    rw [htext, List.length_append, List.length_cons] at hfuel
    have hread := h.value item (',' :: (sepBy ',' (writeAll (next :: items)) ++ ']' :: rest)) hitem
      (by omega) (bounded_cons (by decide) _)
    rw [htext, List.append_assoc, List.cons_append, readItems_more hread,
      h.items (next :: items) rest nofun hnext (by omega)]
    rfl

theorem ReadsBack.members_succ (h : ReadsBack fuel) (members : List (String × Json))
    (rest : List Char) (hne : members ≠ []) (hmembers : membersPlain members = true)
    (hfuel : (sepBy ',' (writeMembers members)).length + 1 < fuel + 1) :
    readMembers (fuel + 1) (sepBy ',' (writeMembers members) ++ '\x7d' :: rest) =
      some (members.map fun m ↦ (some m.1, m.2), rest) := by
  match members, hmembers with
  | [], _ => exact absurd rfl hne
  | [(k, j)], hmembers =>
    have htext : sepBy ',' (writeMembers [(k, j)]) ++ '\x7d' :: rest =
        memberText k j ('\x7d' :: rest) := by
      simp only [writeMembers, sepBy, writeString, memberText, List.cons_append, List.append_assoc,
        List.nil_append]
    have hlength := congrArg List.length htext
    simp only [memberText, List.length_append, List.length_cons] at hlength
    rw [htext]
    exact readMembers_last (h.value j ('\x7d' :: rest) (Bool.and_eq_true_iff.1 hmembers).1
      (by omega) (bounded_cons (by decide) rest))
  | (k, j) :: next :: members, hmembers =>
    obtain ⟨hj, hnext⟩ := Bool.and_eq_true_iff.1 hmembers
    have htext : sepBy ',' (writeMembers ((k, j) :: next :: members)) ++ '\x7d' :: rest =
        memberText k j (',' :: (sepBy ',' (writeMembers (next :: members)) ++ '\x7d' :: rest)) := by
      simp only [writeMembers, sepBy, writeString, memberText, List.cons_append, List.append_assoc,
        List.nil_append]
    have hlength := congrArg List.length htext
    simp only [memberText, List.length_append, List.length_cons] at hlength
    rw [htext, readMembers_more (h.value j _ hj (by omega) (bounded_cons (by decide) _)),
      h.members (next :: members) rest nofun hnext (by omega)]
    rfl

theorem readsBack (fuel : Nat) : ReadsBack fuel := by
  -- Values, items and members call each other with one unit of fuel less, so all three go together.
  induction fuel with
  | zero => exact ⟨fun _ _ _ h ↦ absurd h (Nat.not_lt_zero _),
      fun _ _ _ _ h ↦ absurd h (Nat.not_lt_zero _), fun _ _ _ _ h ↦ absurd h (Nat.not_lt_zero _)⟩
  | succ fuel ih => exact ⟨ih.value_succ, ih.items_succ, ih.members_succ⟩

/-- A plain value is what its own text says. -/
theorem parse?_compact {j : Json} (hj : isPlain j = true) : parse? j.compact = some j := by
  have hread := (readsBack (j.write.length + 1)).value j [] hj (Nat.lt_succ_self _) nofun
  rw [List.append_nil] at hread
  unfold parse? compact
  dsimp only
  rw [String.toList_ofList, hread]
  rfl

end PodPlacement.Json
