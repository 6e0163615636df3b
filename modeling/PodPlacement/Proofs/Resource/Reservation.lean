import PodPlacement.Proofs.Resource.Native

/-!
Reservations as text: three integers of 64 bits with commas between them. They are read with
whatever blanks, plus signs and zeros they come with, and written in the one form that has none of
these.
-/

namespace PodPlacement.Amounts

open Text

/-- An integer of 64 bits, with blanks around it or none. -/
inductive Field : List Char → Int → Prop
  | padded {before core after : List Char} {n : Int} : (∀ c ∈ before, isBlank c = true) →
      Writes core n → (∀ c ∈ after, isBlank c = true) → IntegerRange.signed64.lo ≤ n →
      n ≤ IntegerRange.signed64.hi → Field (before ++ core ++ after) n

/-- Three integers, each written as short as it can be. -/
structure IsShortest (s : String) : Prop where
  fields : ∃ a b c, s.toList.splitOn ',' = [a, b, c] ∧ IsShort a ∧ IsShort b ∧ IsShort c

variable {s : String} {q : Amounts} {cs : List Char} {n : Int}

theorem readInteger_trim_iff : readInteger .signed64 (trim cs) = .ok n ↔ Field cs n := by
  rw [readInteger_eq_ok_iff (by decide) (by decide)]
  constructor
  · rintro ⟨hwrites, hlo, hhi⟩
    obtain ⟨before, after, hcs, hbefore, hafter⟩ := exists_padding cs
    rw [hcs]
    exact .padded hbefore hwrites hafter hlo hhi
  · rintro ⟨hbefore, hwrites, hafter, hlo, hhi⟩
    rw [trim_eq_of_padded hbefore hwrites.not_blank hwrites.ne_nil hafter]
    exact ⟨hwrites, hlo, hhi⟩

theorem mapM_eq_ok_iff {α β ε : Type} {f : α → Except ε β} {xs : List α} {ys : List β} :
    xs.mapM f = .ok ys ↔ List.Forall₂ (fun x y ↦ f x = .ok y) xs ys := by
  induction xs generalizing ys with
  | nil =>
    rw [List.mapM_nil, List.forall₂_nil_left_iff]
    exact ⟨fun h ↦ (Except.ok.inj h).symm, fun h ↦ congrArg Except.ok h.symm⟩
  | cons x xs ih =>
    rw [List.mapM_cons, List.forall₂_cons_left_iff]
    cases hx : f x with
    | error e => exact iff_of_false nofun nofun
    | ok y =>
      cases hxs : xs.mapM f with
      | error e =>
        refine iff_of_false nofun ?_
        rintro ⟨_, ys', _, hys', _⟩
        rw [← ih, hxs] at hys'
        cases hys'
      | ok ys' =>
        constructor
        · intro h
          exact ⟨y, ys', rfl, ih.1 hxs, (Except.ok.inj h).symm⟩
        · rintro ⟨_, _, hy, hys, rfl⟩
          rw [← ih, hxs] at hys
          cases hy
          cases hys
          rfl

/-- Exactly what is read as a reservation, and as which. -/
theorem ofReservation_eq_ok_iff : ofReservation s = .ok q ↔ ∃ a b c x y z,
    s.toList.splitOn ',' = [a, b, c] ∧ Field a x ∧ Field b y ∧ Field c z ∧
      q = { cpu := x, memory := y, ephemeral := z } := by
  simp only [← readInteger_trim_iff]
  constructor
  · intro h
    unfold ofReservation at h
    dsimp only at h
    split at h
    · next x y z hread =>
      cases h
      obtain ⟨a, _, hx, hab, hparts⟩ := List.forall₂_cons_right_iff.1 (mapM_eq_ok_iff.1 hread)
      obtain ⟨b, _, hy, hbc, rfl⟩ := List.forall₂_cons_right_iff.1 hab
      obtain ⟨c, _, hz, hc, rfl⟩ := List.forall₂_cons_right_iff.1 hbc
      obtain rfl := List.forall₂_nil_right_iff.1 hc
      exact ⟨a, b, c, x, y, z, hparts, hx, hy, hz, rfl⟩
    · cases h
    · cases h
  · rintro ⟨a, b, c, x, y, z, hparts, hx, hy, hz, rfl⟩
    have hread : (s.toList.splitOn ',').mapM (fun f ↦ readInteger .signed64 (trim f)) =
        .ok [x, y, z] := by
      rw [mapM_eq_ok_iff, hparts]
      exact .cons hx (.cons hy (.cons hz .nil))
    unfold ofReservation
    dsimp only
    rw [hread]

theorem fits_of_ofReservation (h : ofReservation s = .ok q) (r : Native) :
    IntegerRange.signed64.lo ≤ q.get r ∧ q.get r ≤ IntegerRange.signed64.hi := by
  have hbounds {cs : List Char} {n : Int} (hfield : Field cs n) :
      IntegerRange.signed64.lo ≤ n ∧ n ≤ IntegerRange.signed64.hi := by
    obtain ⟨_, _, _, hlo, hhi⟩ := hfield
    exact ⟨hlo, hhi⟩
  obtain ⟨a, b, c, x, y, z, _, hx, hy, hz, rfl⟩ := ofReservation_eq_ok_iff.1 h
  cases r with
  | cpu => exact hbounds hx
  | memory => exact hbounds hy
  | ephemeral => exact hbounds hz

theorem isShortest_toReservation (q : Amounts) : IsShortest q.toReservation :=
  ⟨_, _, _, reservation_fields, isShort_toString _, isShort_toString _, isShort_toString _⟩

/-- What was read is read again from the text that it is written as. -/
theorem ofReservation_again (h : ofReservation s = .ok q) :
    ofReservation q.toReservation = .ok q := by
  rw [ofReservation_toReservation (fits_of_ofReservation h)]
  obtain ⟨a, b, c, x, y, z, _, _, _, _, rfl⟩ := ofReservation_eq_ok_iff.1 h
  rfl

theorem Field.eq_toString (h : Field cs n) (hshort : IsShort cs) : cs = (toString n).toList := by
  have hread := readInteger_trim_iff.2 h
  obtain ⟨m, hm⟩ := hshort.exists_writes
  rw [trim_of_no_blank hm.not_blank, readInteger_eq_ok_iff (by decide) (by decide)] at hread
  exact hshort.eq_toString hread.1

theorem IsShortest.toReservation_eq (hs : IsShortest s) (h : ofReservation s = .ok q) :
    q.toReservation = s := by
  obtain ⟨a, b, c, x, y, z, hparts, hx, hy, hz, rfl⟩ := ofReservation_eq_ok_iff.1 h
  obtain ⟨a', b', c', hparts', ha, hb, hc⟩ := hs.fields
  obtain ⟨rfl, rfl, rfl⟩ : a = a' ∧ b = b' ∧ c = c' := by simpa using hparts.symm.trans hparts'
  have hs' : s.toList = [','].intercalate [a, b, c] := by rw [← hparts, List.intercalate_splitOn]
  rw [← String.toList_inj, hs', hx.eq_toString ha, hy.eq_toString hb, hz.eq_toString hc]
  simp [toReservation]

/-- Amounts of 64 bits are read back from their reservation, without pods and extended resources. A
text is a reservation exactly if it has three fields between commas, and each is an integer of
64 bits in decimal with blanks around it or none. Written again it takes the shortest form, which is
read as the same amounts and written as it stands. -/
theorem reservations_exact :
    (∀ q : Amounts,
      (∀ r, IntegerRange.signed64.lo ≤ q.get r ∧ q.get r ≤ IntegerRange.signed64.hi) →
      ofReservation q.toReservation = .ok { q with pods := 0, extended := ∅ }) ∧
    (∀ s q, ofReservation s = .ok q ↔ ∃ a b c x y z, s.toList.splitOn ',' = [a, b, c] ∧
      Field a x ∧ Field b y ∧ Field c z ∧ q = { cpu := x, memory := y, ephemeral := z }) ∧
    (∀ s q, ofReservation s = .ok q →
      IsShortest q.toReservation ∧ ofReservation q.toReservation = .ok q) ∧
    ∀ s q, IsShortest s → ofReservation s = .ok q → q.toReservation = s :=
  ⟨fun _ ↦ ofReservation_toReservation, fun _ _ ↦ ofReservation_eq_ok_iff,
    fun _ q h ↦ ⟨isShortest_toReservation q, ofReservation_again h⟩,
    fun _ _ ↦ IsShortest.toReservation_eq⟩

/-- The ends of the range, and a text with every freedom that a field has. -/
theorem reservations_exact_loose :
    let most : Amounts :=
      { cpu := -0x8000000000000000, memory := 0x7fffffffffffffff, ephemeral := 0, pods := 110 }
    let loose := "+5, \u2003007\t,-0"
    let read : Amounts := { cpu := 5, memory := 7, ephemeral := 0 }
    (∀ r, IntegerRange.signed64.lo ≤ most.get r ∧ most.get r ≤ IntegerRange.signed64.hi) ∧
    most.toReservation = "-9223372036854775808,9223372036854775807,0" ∧
    ofReservation most.toReservation = .ok { most with pods := 0 } ∧
    ofReservation loose = .ok read ∧ read.toReservation = "5,7,0" ∧
    IsShortest "5,7,0" ∧ ofReservation "5,7,0" = .ok read ∧
    ¬∃ q, ofReservation "0,0,9223372036854775808" = .ok q := by
  intro most loose read
  obtain ⟨hback, hiff, hagain, hsame⟩ := reservations_exact
  have hfits : ∀ r, IntegerRange.signed64.lo ≤ most.get r ∧
      most.get r ≤ IntegerRange.signed64.hi := by
    intro r
    cases r <;> decide
  have hfive : Writes ['+', '5'] 5 := .plus ⟨nofun, by simp⟩
  have hseven : Writes ['0', '0', '7'] 7 := .bare ⟨nofun, by simp⟩
  have hzero : Writes ['-', '0'] 0 := .minus ⟨nofun, by simp⟩
  have hloose : ofReservation loose = .ok read := by
    refine (hiff _ _).2 ⟨[] ++ ['+', '5'] ++ [], [' ', '\u2003'] ++ ['0', '0', '7'] ++ ['\t'],
      [] ++ ['-', '0'] ++ [], 5, 7, 0, by decide, ?_, ?_, ?_, rfl⟩
    · exact .padded nofun hfive nofun (by decide) (by decide)
    · exact .padded (by simp [isBlank, blankRanges]) hseven (by simp [isBlank, blankRanges])
        (by decide) (by decide)
    · exact .padded nofun hzero nofun (by decide) (by decide)
  obtain ⟨hshort, hread⟩ := hagain _ _ hloose
  have htext : read.toReservation = "5,7,0" := by decide
  rw [htext] at hshort hread
  refine ⟨hfits, by decide, hback most hfits, hloose, htext, hshort, hread, ?_⟩
  rintro ⟨q, hq⟩
  cases hq

end PodPlacement.Amounts
