import Mathlib.Data.List.Basic
import Mathlib.Data.List.Induction
import Mathlib.Tactic.IntervalCases
import PodPlacement.Text.Blank
import PodPlacement.Text.Integer

/-!
An integer that is written in decimal is read back, as long as the range holds it, and what is
read is a sign or none and digits. Of all the ways to write an integer one is the shortest.
-/

namespace PodPlacement.Text

theorem le_ofDigitChars (cs : List Char) (m : Nat) : m ≤ Nat.ofDigitChars 10 cs m := by
  rw [Nat.ofDigitChars_eq_ofDigitChars_zero]
  have hpow : 0 < 10 ^ cs.length := Nat.pow_pos (by decide)
  have hmul := Nat.le_mul_of_pos_left m hpow
  omega

theorem readDigits_ofDigitChars {range : IntegerRange} (hlo : range.lo ≤ 0) (hhi : 0 ≤ range.hi)
    {sign : Int} (hsign : sign = 1 ∨ sign = -1) {cs : List Char}
    (hdigits : ∀ c ∈ cs, c.isDigit = true) {m : Nat}
    (hfits : range.lo ≤ sign * Nat.ofDigitChars 10 cs m ∧
      sign * Nat.ofDigitChars 10 cs m ≤ range.hi) :
    readDigits range sign (sign * m) cs = .ok (sign * Nat.ofDigitChars 10 cs m) := by
  induction cs generalizing m with
  | nil => rfl
  | cons c cs ih =>
    rw [Nat.ofDigitChars_cons] at hfits ⊢
    have hnext : sign * (m : Int) * 10 + sign * digitValue c =
        sign * ((10 * m + (c.toNat - '0'.toNat) : Nat) : Int) := by
      rw [Int.mul_assoc, ← Int.mul_add]
      unfold digitValue
      congr 1
      omega
    have hgrows := le_ofDigitChars cs (10 * m + (c.toNat - '0'.toNat))
    have hhigh : ¬ range.hi < sign * ((10 * m + (c.toNat - '0'.toNat) : Nat) : Int) := by
      rcases hsign with rfl | rfl <;> omega
    have hlow : ¬ sign * ((10 * m + (c.toNat - '0'.toNat) : Nat) : Int) < range.lo := by
      rcases hsign with rfl | rfl <;> omega
    simp only [readDigits, hdigits c (List.mem_cons_self ..), if_true, hnext, hhigh, hlow, if_false]
    exact ih (fun d hd ↦ hdigits d (List.mem_cons_of_mem _ hd)) hfits

theorem isDigit_of_mem_toDigits {n : Nat} {c : Char} (h : c ∈ Nat.toDigits 10 n) :
    c.isDigit = true := Nat.isDigit_of_mem_toDigits (by decide) (by decide) h

theorem head_toDigits {n : Nat} (hn : n ≠ 0) : (Nat.toDigits 10 n).head? ≠ some '0' := by
  induction n using Nat.strongRecOn with
  | ind n ih =>
    by_cases hsmall : n < 10
    · have hpos : 0 < n := Nat.pos_of_ne_zero hn
      rw [Nat.toDigits_of_lt_base hsmall]
      interval_cases n <;> decide
    · have hlarge : 10 ≤ n := Nat.not_lt.1 hsmall
      rw [Nat.toDigits_of_base_le (by decide) hlarge,
        List.head?_append_of_ne_nil _ Nat.toDigits_ne_nil]
      exact ih (n / 10) (by omega) (by omega)

theorem readInteger_of_digits {range : IntegerRange} {cs : List Char} (hne : cs ≠ [])
    (hdigits : ∀ c ∈ cs, c.isDigit = true) : readInteger range cs = readDigits range 1 0 cs := by
  cases cs with
  | nil => exact absurd rfl hne
  | cons c cs =>
    have hc := hdigits c (List.mem_cons_self ..)
    have hplus : c ≠ '+' := by
      rintro rfl
      cases hc
    have hminus : c ≠ '-' := by
      rintro rfl
      cases hc
    unfold readInteger
    split
    · next heq => cases heq
    · next heq =>
      cases heq
      exact absurd rfl hplus
    · next heq =>
      cases heq
      exact absurd rfl hminus
    · next heq =>
      cases heq
      exact absurd rfl hplus
    · next heq =>
      cases heq
      exact absurd rfl hminus
    · rfl

theorem toString_negSucc (n : Nat) :
    (toString (Int.negSucc n)).toList = '-' :: Nat.toDigits 10 (n + 1) := by
  have htext : toString (Int.negSucc n) = "-" ++ Nat.repr (n + 1) := rfl
  rw [htext, String.toList_append, Nat.toList_repr]
  rfl

theorem toList_toString_natCast (n : Nat) : (toString (n : Int)).toList = Nat.toDigits 10 n :=
  Nat.toList_repr

theorem eq_of_toString_eq {m n : Nat} (h : toString m = toString n) : m = n := by
  have hdigits : Nat.toDigits 10 m = Nat.toDigits 10 n := by
    rw [← Nat.toList_repr, ← Nat.toList_repr]
    exact congrArg String.toList h
  rw [← Nat.ofDigitChars_toDigits (n := m) (by decide : 1 < 10) (by decide), hdigits,
    Nat.ofDigitChars_toDigits (by decide) (by decide)]

theorem mem_toString {n : Int} {c : Char} (h : c ∈ (toString n).toList) :
    c = '-' ∨ c.isDigit = true := by
  cases n with
  | ofNat n => exact .inr (isDigit_of_mem_toDigits (toList_toString_natCast n ▸ h))
  | negSucc n =>
    rw [toString_negSucc] at h
    exact (List.mem_cons.1 h).imp_right isDigit_of_mem_toDigits

/-- An integer that the range holds is read back. -/
theorem readInteger_toString {range : IntegerRange} (hlo : range.lo ≤ 0) (hhi : 0 ≤ range.hi)
    {n : Int} (h : range.lo ≤ n ∧ n ≤ range.hi) :
    readInteger range (toString n).toList = .ok n := by
  have hdigits {k : Nat} : ∀ c ∈ Nat.toDigits 10 k, c.isDigit = true :=
    fun c ↦ isDigit_of_mem_toDigits
  cases n with
  | ofNat n =>
    have hread := readDigits_ofDigitChars (m := 0) hlo hhi (.inl rfl) (hdigits (k := n))
    rw [Nat.ofDigitChars_ten_toDigits, Int.one_mul] at hread
    rw [Int.ofNat_eq_natCast] at h ⊢
    rw [toList_toString_natCast, readInteger_of_digits Nat.toDigits_ne_nil hdigits]
    exact hread h
  | negSucc n =>
    have hnegative : -1 * ((n + 1 : Nat) : Int) = Int.negSucc n := by
      rw [Int.negSucc_eq]
      omega
    have hread := readDigits_ofDigitChars (m := 0) hlo hhi (.inr rfl) (hdigits (k := n + 1))
    rw [Nat.ofDigitChars_ten_toDigits, hnegative] at hread
    obtain ⟨d, ds, hds⟩ := List.exists_cons_of_ne_nil (Nat.toDigits_ne_nil (n := n + 1) (b := 10))
    have hbelow : range.lo < 0 := by omega
    rw [toString_negSucc, hds]
    rw [hds] at hread
    exact (if_pos hbelow).trans (hread h)

theorem trim_of_no_blank {cs : List Char} (h : ∀ c ∈ cs, isBlank c = false) : trim cs = cs := by
  have hleft {l : List Char} (hl : ∀ c ∈ l, isBlank c = false) : trimLeft l = l := by
    cases l with
    | nil => rfl
    | cons c l =>
      exact List.dropWhile_cons_of_neg (Bool.eq_false_iff.1 (hl c (List.mem_cons_self ..)))
  unfold trim
  rw [hleft h, hleft fun c hc ↦ h c (List.mem_reverse.1 hc), List.reverse_reverse]

theorem isBlank_of_isDigit {c : Char} (h : c.isDigit = true) : isBlank c = false := by
  rw [Char.isDigit, Bool.and_eq_true, decide_eq_true_eq, decide_eq_true_eq] at h
  have hlow : 48 ≤ c.toNat := h.1
  have hhigh : c.toNat ≤ 57 := h.2
  have hranges : ∀ r ∈ blankRanges, r.2 < 48 ∨ 57 < r.1 := by decide
  rw [isBlank, List.any_eq_false]
  intro r hr hin
  rw [Bool.and_eq_true, decide_eq_true_eq, decide_eq_true_eq] at hin
  have := hranges r hr
  omega

theorem trim_eq_of_padded {before core after : List Char} (hbefore : ∀ c ∈ before, isBlank c = true)
    (hcore : ∀ c ∈ core, isBlank c = false) (hne : core ≠ [])
    (hafter : ∀ c ∈ after, isBlank c = true) : trim (before ++ core ++ after) = core := by
  have hleft {pad l rest : List Char} (hpad : ∀ c ∈ pad, isBlank c = true)
      (hl : ∀ c ∈ l, isBlank c = false) (hl' : l ≠ []) :
      trimLeft (pad ++ (l ++ rest)) = l ++ rest := by
    obtain ⟨c, cs, rfl⟩ := List.exists_cons_of_ne_nil hl'
    rw [trimLeft, List.dropWhile_append_of_pos hpad, List.cons_append]
    exact List.dropWhile_cons_of_neg (Bool.eq_false_iff.1 (hl c (List.mem_cons_self ..)))
  have hright : trimLeft (after.reverse ++ core.reverse) = core.reverse := by
    rw [← List.append_nil core.reverse]
    exact hleft (fun c hc ↦ hafter c (List.mem_reverse.1 hc))
      (fun c hc ↦ hcore c (List.mem_reverse.1 hc)) (mt List.reverse_eq_nil_iff.1 hne)
  rw [trim, List.append_assoc, hleft hbefore hcore hne, List.reverse_append, hright,
    List.reverse_reverse]

/-- What is trimmed off are blanks. -/
theorem exists_padding (cs : List Char) : ∃ before after, cs = before ++ trim cs ++ after ∧
    (∀ c ∈ before, isBlank c = true) ∧ ∀ c ∈ after, isBlank c = true := by
  have hall {l : List Char} : ∀ c ∈ l.takeWhile isBlank, isBlank c = true :=
    List.all_eq_true.1 List.all_takeWhile
  refine ⟨cs.takeWhile isBlank, ((trimLeft cs).reverse.takeWhile isBlank).reverse, ?_, hall,
    fun c hc ↦ hall c (List.mem_reverse.1 hc)⟩
  have hright : trim cs ++ ((trimLeft cs).reverse.takeWhile isBlank).reverse = trimLeft cs := by
    calc trim cs ++ ((trimLeft cs).reverse.takeWhile isBlank).reverse
        = ((trimLeft cs).reverse.takeWhile isBlank ++
            (trimLeft cs).reverse.dropWhile isBlank).reverse := List.reverse_append.symm
      _ = trimLeft cs := by rw [List.takeWhile_append_dropWhile, List.reverse_reverse]
  rw [List.append_assoc, hright, trimLeft, List.takeWhile_append_dropWhile]

/-! ### Ways to write an integer -/

structure IsDigits (ds : List Char) : Prop where
  ne_nil : ds ≠ []
  digits : ∀ c ∈ ds, c.isDigit = true

inductive Writes : List Char → Int → Prop
  | bare {ds : List Char} : IsDigits ds → Writes ds (Nat.ofDigitChars 10 ds 0)
  | plus {ds : List Char} : IsDigits ds → Writes ('+' :: ds) (Nat.ofDigitChars 10 ds 0)
  | minus {ds : List Char} : IsDigits ds → Writes ('-' :: ds) (-Nat.ofDigitChars 10 ds 0)

variable {range : IntegerRange} {cs ds : List Char} {n : Int}

theorem isDigits_toDigits (n : Nat) : IsDigits (Nat.toDigits 10 n) :=
  ⟨Nat.toDigits_ne_nil, fun _ ↦ isDigit_of_mem_toDigits⟩

theorem Writes.ne_nil (h : Writes cs n) : cs ≠ [] := by
  cases h with
  | bare hds => exact hds.ne_nil
  | plus _ => exact nofun
  | minus _ => exact nofun

theorem Writes.not_blank (h : Writes cs n) : ∀ c ∈ cs, isBlank c = false := by
  cases h with
  | bare hds => exact fun c hc ↦ isBlank_of_isDigit (hds.digits c hc)
  | plus hds =>
    exact List.forall_mem_cons.2 ⟨by decide, fun c hc ↦ isBlank_of_isDigit (hds.digits c hc)⟩
  | minus hds =>
    exact List.forall_mem_cons.2 ⟨by decide, fun c hc ↦ isBlank_of_isDigit (hds.digits c hc)⟩

theorem of_readDigits {sign : Int} {m : Nat} (hm : range.lo ≤ sign * m ∧ sign * m ≤ range.hi)
    (h : readDigits range sign (sign * m) cs = .ok n) :
    (∀ c ∈ cs, c.isDigit = true) ∧ n = sign * Nat.ofDigitChars 10 cs m ∧
      range.lo ≤ n ∧ n ≤ range.hi := by
  induction cs generalizing m with
  | nil =>
    cases h
    exact ⟨nofun, rfl, hm⟩
  | cons c cs ih =>
    have hnext : sign * (m : Int) * 10 + sign * digitValue c =
        sign * ((10 * m + (c.toNat - '0'.toNat) : Nat) : Int) := by
      rw [Int.mul_assoc, ← Int.mul_add]
      unfold digitValue
      congr 1
      omega
    simp only [readDigits, hnext] at h
    split at h
    · next hdigit =>
      split at h
      · cases h
      · next hhigh =>
        split at h
        · cases h
        · next hlow =>
          obtain ⟨hdigits, hn, hin⟩ := ih ⟨Int.not_lt.1 hlow, Int.not_lt.1 hhigh⟩ h
          rw [Nat.ofDigitChars_cons]
          exact ⟨List.forall_mem_cons.2 ⟨hdigit, hdigits⟩, hn, hin⟩
    · cases h

theorem of_readDigits_zero {sign : Int} (hlo : range.lo ≤ 0) (hhi : 0 ≤ range.hi) (hne : cs ≠ [])
    (h : readDigits range sign 0 cs = .ok n) :
    IsDigits cs ∧ n = sign * Nat.ofDigitChars 10 cs 0 ∧ range.lo ≤ n ∧ n ≤ range.hi := by
  have hzero : sign * ((0 : Nat) : Int) = 0 := Int.mul_zero sign
  have hstart : readDigits range sign (sign * ((0 : Nat) : Int)) cs = .ok n := by rwa [hzero]
  obtain ⟨hdigits, hn, hin⟩ := of_readDigits (by rw [hzero]; exact ⟨hlo, hhi⟩) hstart
  exact ⟨⟨hne, hdigits⟩, hn, hin⟩

theorem IsDigits.readDigits {sign : Int} (hds : IsDigits ds) (hsign : sign = 1 ∨ sign = -1)
    (hlo : range.lo ≤ 0) (hhi : 0 ≤ range.hi)
    (hin : range.lo ≤ sign * Nat.ofDigitChars 10 ds 0 ∧
      sign * Nat.ofDigitChars 10 ds 0 ≤ range.hi) :
    readDigits range sign 0 ds = .ok (sign * Nat.ofDigitChars 10 ds 0) := by
  have hread := readDigits_ofDigitChars (m := 0) hlo hhi hsign hds.digits hin
  rwa [Int.natCast_zero, Int.mul_zero] at hread

/-- Reading takes what writes an integer of the range, and nothing else. -/
theorem readInteger_eq_ok_iff (hlo : range.lo < 0) (hhi : 0 ≤ range.hi) :
    readInteger range cs = .ok n ↔ Writes cs n ∧ range.lo ≤ n ∧ n ≤ range.hi := by
  have hlo' : range.lo ≤ 0 := Int.le_of_lt hlo
  constructor
  · intro h
    unfold readInteger at h
    split at h
    · cases h
    · cases h
    · cases h
    · next ds hne =>
      obtain ⟨hds, rfl, hin⟩ := of_readDigits_zero hlo' hhi hne h
      rw [Int.one_mul] at hin ⊢
      exact ⟨.plus hds, hin⟩
    · next ds _ hne =>
      rw [if_pos hlo] at h
      obtain ⟨hds, rfl, hin⟩ := of_readDigits_zero hlo' hhi hne h
      rw [Int.neg_one_mul] at hin ⊢
      exact ⟨.minus hds, hin⟩
    · next hne _ _ _ _ =>
      obtain ⟨hds, rfl, hin⟩ := of_readDigits_zero hlo' hhi hne h
      rw [Int.one_mul] at hin ⊢
      exact ⟨.bare hds, hin⟩
  · rintro ⟨h, hin⟩
    cases h with
    | bare hds =>
      rw [readInteger_of_digits hds.ne_nil hds.digits, hds.readDigits (.inl rfl) hlo' hhi]
      · rw [Int.one_mul]
      · rwa [Int.one_mul]
    | @plus ds hds =>
      have hread := hds.readDigits (.inl rfl) hlo' hhi (by rwa [Int.one_mul])
      rw [Int.one_mul] at hread
      obtain ⟨d, rest, rfl⟩ := List.exists_cons_of_ne_nil hds.ne_nil
      exact hread
    | @minus ds hds =>
      have hread := hds.readDigits (.inr rfl) hlo' hhi (by rwa [Int.neg_one_mul])
      rw [Int.neg_one_mul] at hread
      obtain ⟨d, rest, rfl⟩ := List.exists_cons_of_ne_nil hds.ne_nil
      exact (if_pos hlo).trans hread

/-! ### The shortest way -/

/-- No sign but a minus, and no zero that could be left out. -/
inductive IsShort : List Char → Prop
  | zero : IsShort ['0']
  | positive {d : Char} {ds : List Char} : d ≠ '0' → IsDigits (d :: ds) → IsShort (d :: ds)
  | negative {d : Char} {ds : List Char} : d ≠ '0' → IsDigits (d :: ds) → IsShort ('-' :: d :: ds)

theorem IsShort.exists_writes (h : IsShort cs) : ∃ n, Writes cs n := by
  cases h with
  | zero => exact ⟨_, .bare (isDigits_toDigits 0)⟩
  | positive _ hds => exact ⟨_, .bare hds⟩
  | negative _ hds => exact ⟨_, .minus hds⟩

theorem digitChar_of_isDigit {c : Char} (h : c.isDigit = true) :
    Nat.digitChar (c.toNat - '0'.toNat) = c ∧ c.toNat - '0'.toNat < 10 := by
  rw [Char.isDigit, Bool.and_eq_true, decide_eq_true_eq, decide_eq_true_eq] at h
  have hlow : 48 ≤ c.toNat := h.1
  have hhigh : c.toNat ≤ 57 := h.2
  have hzero : '0'.toNat = 48 := rfl
  have hdigit : ∀ k < 10, (Nat.digitChar k).toNat = 48 + k := by decide
  refine ⟨Char.toNat_inj.1 ?_, by omega⟩
  rw [hdigit _ (by omega)]
  omega

theorem ne_zero_of_toDigits {n : Nat} {d : Char} (h : Nat.toDigits 10 n = d :: ds) (hd : d ≠ '0') :
    n ≠ 0 := by
  rintro rfl
  exact hd (List.cons.inj h).1.symm

/-- Digits with no zero in front are the digits of their value. -/
theorem toDigits_ofDigitChars {d : Char} (hd : d ≠ '0') (hds : IsDigits (d :: ds)) :
    Nat.toDigits 10 (Nat.ofDigitChars 10 (d :: ds) 0) = d :: ds := by
  induction ds using List.reverseRecOn with
  | nil =>
    obtain ⟨hchar, hlt⟩ := digitChar_of_isDigit (hds.digits d (List.mem_cons_self ..))
    rw [Nat.ofDigitChars_cons, Nat.mul_zero, Nat.zero_add]
    exact (Nat.toDigits_of_lt_base hlt).trans (congrArg (· :: []) hchar)
  | append_singleton ds e ih =>
    rw [← List.cons_append] at hds ⊢
    have hfront : IsDigits (d :: ds) :=
      ⟨nofun, fun c hc ↦ hds.digits c (List.mem_append_left _ hc)⟩
    obtain ⟨hchar, hlt⟩ := digitChar_of_isDigit (hds.digits e (by simp))
    have hback := ih hfront
    have hpos := Nat.pos_of_ne_zero (ne_zero_of_toDigits hback hd)
    rw [Nat.ofDigitChars_append, Nat.ofDigitChars_cons, Nat.ofDigitChars_nil,
      ← Nat.toDigits_append_toDigits (by decide) hpos hlt, hback, Nat.toDigits_of_lt_base hlt,
      hchar]

theorem isShort_toString (n : Int) : IsShort (toString n).toList := by
  have hshort {k : Nat} (hk : k ≠ 0) : ∃ d ds, Nat.toDigits 10 k = d :: ds ∧ d ≠ '0' := by
    obtain ⟨d, ds, hds⟩ := List.exists_cons_of_ne_nil (Nat.toDigits_ne_nil (n := k) (b := 10))
    refine ⟨d, ds, hds, ?_⟩
    rintro rfl
    exact head_toDigits hk (hds ▸ rfl)
  cases n with
  | ofNat k =>
    have htext : (toString (Int.ofNat k)).toList = Nat.toDigits 10 k := toList_toString_natCast k
    rw [htext]
    by_cases hk : k = 0
    · rw [hk]
      exact .zero
    · obtain ⟨d, ds, hds, hd⟩ := hshort hk
      have hdigits := isDigits_toDigits k
      rw [hds] at hdigits ⊢
      exact .positive hd hdigits
  | negSucc k =>
    rw [toString_negSucc]
    obtain ⟨d, ds, hds, hd⟩ := hshort (Nat.succ_ne_zero k)
    have hdigits := isDigits_toDigits (k + 1)
    rw [hds] at hdigits ⊢
    exact .negative hd hdigits

theorem not_isDigits_cons {c : Char} (h : c.isDigit = false) : ¬IsDigits (c :: ds) := by
  intro hds
  rw [hds.digits c (List.mem_cons_self ..)] at h
  cases h

/-- There is one shortest way to write an integer. -/
theorem IsShort.eq_toString (h : IsShort cs) (hn : Writes cs n) : cs = (toString n).toList := by
  cases h with
  | zero =>
    cases hn with
    | bare _ => rfl
  | positive hd hds =>
    cases hn with
    | bare _ => rw [toList_toString_natCast, toDigits_ofDigitChars hd hds]
    | plus _ => exact absurd hds (not_isDigits_cons (by decide))
    | minus _ => exact absurd hds (not_isDigits_cons (by decide))
  | @negative d ds hd hds =>
    cases hn with
    | bare hbare => exact absurd hbare (not_isDigits_cons (by decide))
    | minus _ =>
      have hback := toDigits_ofDigitChars hd hds
      obtain ⟨k, hk⟩ := Nat.exists_eq_succ_of_ne_zero (ne_zero_of_toDigits hback hd)
      have hneg : -((k + 1 : Nat) : Int) = Int.negSucc k := rfl
      rw [hk] at hback ⊢
      rw [hneg, toString_negSucc, hback]

end PodPlacement.Text
