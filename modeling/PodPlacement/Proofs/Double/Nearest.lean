import PodPlacement.Proofs.Double.Ratio

/-!
Rounding to the nearest double keeps the order: of two whole numbers the greater is never converted
to the smaller double, nor divided by one number to the smaller ratio.
-/

namespace PodPlacement.Double

open Float.Model (Format UnpackedFloat totalExponent)
open Float.Model.UnpackedFloat ExtendedMantissa

variable {em : ExtendedMantissa} {f g : UnpackedFloat} {m n k a b c : Nat} {e : Int} {x y : ℚ}

/-! ### Nearest whole numbers -/

/-- `x` is where the mantissa and its two bits say, counted in units of the last place. -/
def Shows : ExtendedMantissa → ℚ → Prop
  | ⟨m, false, false⟩, x => x = m
  | ⟨m, false, true⟩, x => m < x ∧ x < m + 1 / 2
  | ⟨m, true, false⟩, x => x = m + 1 / 2
  | ⟨m, true, true⟩, x => m + 1 / 2 < x ∧ x < m + 1

/-- Of the whole numbers `n` is the nearest to `x`, and the even one of two such. -/
structure Nearest (x : ℚ) (n : Nat) : Prop where
  lower : n - 1 / 2 ≤ x
  upper : x ≤ n + 1 / 2
  tie : x = n - 1 / 2 ∨ x = n + 1 / 2 → n % 2 = 0

theorem Shows.floor (h : Shows em x) : em.mantissa ≤ x ∧ x < em.mantissa + 1 := by
  obtain ⟨m, round, sticky⟩ := em
  cases round <;> cases sticky <;> simp only [Shows] at h ⊢ <;> constructor <;> linarith

theorem Shows.shiftRightOne (h : Shows em x) : Shows em.shiftRightOne (x / 2) := by
  obtain ⟨m, round, sticky⟩ := em
  obtain ⟨q, rfl | rfl⟩ : ∃ q, m = 2 * q ∨ m = 2 * q + 1 := ⟨m / 2, by omega⟩
  · have hhalf : 2 * q / 2 = q := by omega
    cases round <;> cases sticky <;>
      simp [Shows, ExtendedMantissa.shiftRightOne, hhalf] at h ⊢ <;>
      first | constructor <;> linarith | linarith
  · have hhalf : (2 * q + 1) / 2 = q := by omega
    cases round <;> cases sticky <;>
      simp [Shows, ExtendedMantissa.shiftRightOne, hhalf] at h ⊢ <;>
      first | constructor <;> linarith | linarith

theorem Shows.shiftRight (h : Shows em x) (k : Nat) : Shows (em >>> k) (x / 2 ^ k) := by
  induction k with
  | zero =>
    rw [pow_zero, div_one]
    exact h
  | succ k ih =>
    have hstep : em >>> (k + 1) = (em >>> k).shiftRightOne := rfl
    rw [hstep, pow_succ, ← div_div]
    exact ih.shiftRightOne

theorem nearest_of_lt (hlow : n - 1 / 2 < x) (hhigh : x < n + 1 / 2) : Nearest x n :=
  ⟨hlow.le, hhigh.le, fun h ↦ by rcases h with h | h <;> linarith⟩

theorem Shows.nearest (h : Shows em x) : Nearest x em.roundedMantissa := by
  obtain ⟨m, round, sticky⟩ := em
  cases round <;> cases sticky <;>
    simp only [Shows, roundedMantissa, accuracy, Accuracy.roundToNearestEven] at h ⊢
  · exact nearest_of_lt (by linarith) (by linarith)
  · exact nearest_of_lt (by linarith) (by linarith)
  · rcases Nat.mod_two_eq_zero_or_one m with heven | hodd
    · rw [heven]
      exact ⟨by push_cast; linarith, by push_cast; linarith, fun _ ↦ heven⟩
    · rw [hodd]
      exact ⟨by push_cast; linarith, by push_cast; linarith, fun _ ↦ by omega⟩
  · exact nearest_of_lt (by push_cast; linarith) (by push_cast; linarith)

theorem Nearest.le_of_le (hm : Nearest x m) (hn : Nearest y n) (h : x ≤ y) : m ≤ n := by
  by_contra hlt
  have hstep : (n : ℚ) + 1 ≤ m := by exact_mod_cast Nat.not_le.1 hlt
  have hx : x = m - 1 / 2 := by linarith [hm.lower, hn.upper]
  have hy : y = n + 1 / 2 := by linarith [hm.lower, hn.upper]
  have hnext : m = n + 1 := by
    have hcast : (m : ℚ) = n + 1 := by linarith
    exact_mod_cast hcast
  have heven := hm.tie (.inl hx)
  have heven' := hn.tie (.inr hy)
  omega

theorem nearest_self (n : Nat) : Nearest n n := nearest_of_lt (by linarith) (by linarith)

theorem Nearest.le_natCast (hm : Nearest x m) (h : x ≤ n) : m ≤ n := hm.le_of_le (nearest_self n) h

theorem Nearest.natCast_le (hm : Nearest x m) (h : n ≤ x) : n ≤ m := (nearest_self n).le_of_le hm h

theorem shows_exact (m : Nat) : Shows (ofMantissaAndAccuracy m .exact) m := rfl

theorem div_lt_half_iff (hc : 0 < c) : (a : ℚ) / c < 1 / 2 ↔ 2 * a < c := by
  have hpos : (0 : ℚ) < c := by exact_mod_cast hc
  rw [div_lt_div_iff₀ hpos (by norm_num), one_mul, mul_comm]
  exact_mod_cast Iff.rfl

theorem half_lt_div_iff (hc : 0 < c) : 1 / 2 < (a : ℚ) / c ↔ c < 2 * a := by
  have hpos : (0 : ℚ) < c := by exact_mod_cast hc
  rw [div_lt_div_iff₀ (by norm_num) hpos, one_mul, mul_comm (a : ℚ)]
  exact_mod_cast Iff.rfl

/-- What a division of whole numbers leaves over places the quotient. -/
theorem shows_rest (hc : 0 < c) (h : a < c) (q : Nat) :
    Shows (ofMantissaAndAccuracy q (accuracyOfFraction a c)) (q + a / c : ℚ) := by
  have hpos : (0 : ℚ) < c := by exact_mod_cast hc
  have hone : (a : ℚ) / c < 1 := by
    rw [div_lt_one hpos]
    exact_mod_cast h
  rw [accuracyOfFraction]
  split_ifs with hzero
  · simp [hzero, Shows, ofMantissaAndAccuracy]
  · have hrest : (0 : ℚ) < a / c := by
      apply div_pos _ hpos
      exact_mod_cast Nat.pos_of_ne_zero hzero
    rcases lt_trichotomy (2 * a) c with hless | hequal | hmore
    · have hhalf := (div_lt_half_iff hc).2 hless
      rw [Nat.compare_eq_lt.2 hless]
      exact ⟨by linarith, by linarith⟩
    · have hlow : ¬(a : ℚ) / c < 1 / 2 := mt (div_lt_half_iff hc).1 hequal.not_lt
      have hhigh : ¬1 / 2 < (a : ℚ) / c := mt (half_lt_div_iff hc).1 hequal.not_gt
      have hhalf : (a : ℚ) / c = 1 / 2 := le_antisymm (not_lt.1 hhigh) (not_lt.1 hlow)
      rw [Nat.compare_eq_eq.2 hequal, hhalf]
      rfl
    · have hhalf := (half_lt_div_iff hc).2 hmore
      rw [Nat.compare_eq_gt.2 hmore]
      exact ⟨by linarith, by linarith⟩

theorem shows_fraction (hc : 0 < c) :
    Shows (ofMantissaAndAccuracy (a / c) (accuracyOfFraction (a % c) c)) (a / c : ℚ) := by
  have hpos : (0 : ℚ) < c := by exact_mod_cast hc
  have hsplit : (a : ℚ) / c = (a / c : Nat) + (a % c : Nat) / c := by
    rw [div_eq_iff hpos.ne', add_mul, div_mul_cancel₀ _ hpos.ne']
    exact_mod_cast (Nat.div_add_mod' a c).symm
  rw [hsplit]
  exact shows_rest hc (Nat.mod_lt a hc) _

/-! ### Rounding to 53 bits -/

def value : UnpackedFloat → ℚ
  | .finite _ m e _ => m * 2 ^ e
  | _ => 0

/-- `n` is what becomes of `x` when 53 bits are kept of it, the last of them at the place `e`. -/
structure Kept (e : Int) (n : Nat) (x : ℚ) : Prop where
  lower : 2 ^ 52 * 2 ^ e ≤ x
  upper : x < 2 ^ 53 * 2 ^ e
  nearest : Nearest (x / 2 ^ e) n

/-- `f` has the value that is nearest to `x` when 53 bits are kept of it. -/
def Rounds (x : ℚ) (f : UnpackedFloat) : Prop := ∃ e n, Kept e n x ∧ value f = n * 2 ^ e

theorem two_zpow_pos (e : Int) : (0 : ℚ) < 2 ^ e := zpow_pos (by norm_num) e

theorem value_nonneg (f : UnpackedFloat) : 0 ≤ value f := by
  cases f with
  | finite s m e hpos => exact mul_nonneg (Nat.cast_nonneg m) (two_zpow_pos e).le
  | _ => exact le_rfl

/-- All numbers of 53 bits with a lower last place are below those with a higher one. -/
theorem zpow_lt_zpow {e e' : Int} (h : e < e') : (2 : ℚ) ^ 53 * 2 ^ e ≤ 2 ^ 52 * 2 ^ e' := by
  have hnext : (2 : ℚ) ^ 53 * 2 ^ e = 2 ^ 52 * 2 ^ (e + 1) := by
    rw [zpow_add_one₀ (by norm_num)]
    ring
  rw [hnext]
  apply mul_le_mul_of_nonneg_left _ (by norm_num)
  exact zpow_le_zpow_right₀ (by norm_num) h

theorem Kept.bottom_le (h : Kept e n x) : (2 : ℚ) ^ 52 * 2 ^ e ≤ n * 2 ^ e := by
  have hpos := two_zpow_pos e
  have hle : 2 ^ 52 ≤ n := by
    apply h.nearest.natCast_le
    rw [le_div_iff₀ hpos]
    exact_mod_cast h.lower
  apply mul_le_mul_of_nonneg_right _ hpos.le
  exact_mod_cast hle

theorem Kept.le_top (h : Kept e n x) : (n : ℚ) * 2 ^ e ≤ 2 ^ 53 * 2 ^ e := by
  have hpos := two_zpow_pos e
  have hle : n ≤ 2 ^ 53 := by
    apply h.nearest.le_natCast
    rw [div_le_iff₀ hpos]
    exact_mod_cast h.upper.le
  apply mul_le_mul_of_nonneg_right _ hpos.le
  exact_mod_cast hle

theorem Rounds.value_le (hf : Rounds x f) (hg : Rounds y g) (h : x ≤ y) : value f ≤ value g := by
  obtain ⟨e, m, hm, hvalue⟩ := hf
  obtain ⟨e', n, hn, hvalue'⟩ := hg
  rw [hvalue, hvalue']
  rcases lt_trichotomy e e' with hlt | rfl | hgt
  · -- The two are rounded apart, the one up to where the other can only be rounded down to.
    exact hm.le_top.trans ((zpow_lt_zpow hlt).trans hn.bottom_le)
  · have hpos := two_zpow_pos e
    have hle : m ≤ n := hm.nearest.le_of_le hn.nearest (div_le_div_of_nonneg_right h hpos.le)
    apply mul_le_mul_of_nonneg_right _ hpos.le
    exact_mod_cast hle
  · have hapart := zpow_lt_zpow hgt
    have hlower := hm.lower
    have hupper := hn.upper
    linarith

theorem rounds_value (hlow : 2 ^ 52 ≤ m) (hhigh : m < 2 ^ 53) (hpos : 0 < m) :
    Rounds (value (.finite .positive m e hpos)) (.finite .positive m e hpos) := by
  have hscale := two_zpow_pos e
  refine ⟨e, m, ⟨?_, ?_, ?_⟩, rfl⟩
  · apply mul_le_mul_of_nonneg_right _ hscale.le
    exact_mod_cast hlow
  · apply mul_lt_mul_of_pos_right _ hscale
    exact_mod_cast hhigh
  · rw [value, mul_div_cancel_right₀ _ hscale.ne']
    exact nearest_self m

theorem kept_of_div (hlow : 2 ^ 52 ≤ x / 2 ^ k) (hhigh : x / 2 ^ k < 2 ^ 53)
    (hn : Nearest (x / 2 ^ k) n) : Kept (e + k) n (x * 2 ^ e) := by
  have hscale : (2 : ℚ) ^ (e + k) = 2 ^ k * 2 ^ e := by
    rw [zpow_add₀ (by norm_num), zpow_natCast, mul_comm]
  constructor
  · rw [hscale, ← mul_assoc]
    apply mul_le_mul_of_nonneg_right _ (two_zpow_pos e).le
    rwa [← le_div_iff₀ (by positivity)]
  · rw [hscale, ← mul_assoc]
    apply mul_lt_mul_of_pos_right _ (two_zpow_pos e)
    rwa [← div_lt_iff₀ (by positivity)]
  · rwa [hscale, mul_div_mul_right _ _ (two_zpow_pos e).ne']

/-- Rounding up to one bit too many leaves the last of them zero, and it is dropped. -/
theorem value_renormalized (hlow : 2 ^ 52 ≤ n) (hhigh : n ≤ 2 ^ 53)
    (hpos : 0 < n / 2 ^ (n.log2 - 52)) :
    value (.finite .positive (n / 2 ^ (n.log2 - 52)) (e + (n.log2 - 52 : Nat)) hpos) =
      n * 2 ^ e := by
  rcases hhigh.lt_or_eq with hless | rfl
  · have hlog : n.log2 = 52 := (Nat.log2_eq_iff (by omega)).2 ⟨hlow, hless⟩
    simp [value, hlog]
  · have hlog : (2 ^ 53 : Nat).log2 = 53 := Nat.log2_two_pow
    rw [value, hlog, zpow_add₀ (by norm_num)]
    norm_num
    ring

theorem rounds_roundWithAccuracy {accuracy : Accuracy} (hm : 2 ^ 52 ≤ m) (he : -1074 ≤ e)
    (h : Shows (ofMantissaAndAccuracy m accuracy) x) :
    Rounds (x * 2 ^ e) (roundWithAccuracy .binary64 .positive m e accuracy) := by
  obtain ⟨hfloor, hceil, hpos, hround⟩ := roundWithAccuracy_of_le (s := .positive) hm he rfl
  have hshifted := h.shiftRight (m.log2 - 52)
  have hnearest := hshifted.nearest
  have hbits := leading_bits hm
  have hplace := hshifted.floor
  rw [mantissa_shiftRight, mantissa_ofMantissaAndAccuracy] at hplace
  rw [hround]
  generalize (ofMantissaAndAccuracy m accuracy >>> (m.log2 - 52)).roundedMantissa = r at *
  generalize m.log2 - 52 = k at *
  generalize m / 2 ^ k = q at *
  have hlow : (2 ^ 52 : ℚ) ≤ x / 2 ^ k := by
    have hcast : (2 ^ 52 : ℚ) ≤ q := by exact_mod_cast hbits.1
    linarith
  have hhigh : x / 2 ^ k < 2 ^ 53 := by
    have hcast : (q + 1 : ℚ) ≤ 2 ^ 53 := by exact_mod_cast hbits.2
    linarith
  exact ⟨e + k, r, kept_of_div hlow hhigh hnearest, value_renormalized hfloor hceil hpos⟩

/-! ### Doubles in order -/

theorem Ordinary.value_bounds {low high : Int} (h : Ordinary low high f) :
    2 ^ 52 * 2 ^ low ≤ value f ∧ value f < 2 ^ 53 * 2 ^ high := by
  obtain ⟨m, e, hpos, rfl, hm, hm', he, he'⟩ := h
  have hlow : (2 ^ 52 : ℚ) ≤ m := by exact_mod_cast hm
  have hhigh : (m : ℚ) < 2 ^ 53 := by exact_mod_cast hm'
  constructor
  · calc (2 : ℚ) ^ 52 * 2 ^ low ≤ 2 ^ 52 * 2 ^ e := by gcongr; norm_num
      _ ≤ (m : ℚ) * 2 ^ e := by gcongr
  · calc (m : ℚ) * 2 ^ e < 2 ^ 53 * 2 ^ e := by gcongr
      _ ≤ 2 ^ 53 * 2 ^ high := by gcongr; norm_num

/-- Of numbers with all their bits the comparison is that of their values. -/
theorem Ordinary.le_of_value_le {low high low' high' : Int} (hf : Ordinary low high f)
    (hg : Ordinary low' high' g) (h : value f ≤ value g) : f.le g = true := by
  obtain ⟨m, e, hpos, rfl, hm, hm', -, -⟩ := hf
  obtain ⟨n, e', hpos', rfl, hn, hn', -, -⟩ := hg
  change ((compare e e').then (compare m n)).isLE = true
  rw [Ordering.isLE_then_iff_or, Int.compare_eq_lt, Int.compare_eq_eq, Nat.isLE_compare]
  rcases lt_trichotomy e e' with hlt | rfl | hgt
  · exact .inl hlt
  · refine .inr ⟨rfl, ?_⟩
    have hle : (m : ℚ) ≤ n := le_of_mul_le_mul_right h (two_zpow_pos e)
    exact_mod_cast hle
  · have hapart := zpow_lt_zpow hgt
    have hlow : (2 ^ 52 : ℚ) * 2 ^ e ≤ m * 2 ^ e := by
      gcongr
      exact_mod_cast hm
    have hhigh : (n : ℚ) * 2 ^ e' < 2 ^ 53 * 2 ^ e' := by
      gcongr
      exact_mod_cast hn'
    simp only [value] at h
    linarith

def packed (f : UnpackedFloat) : UnpackedFloat := unpack .binary64 (pack .binary64 f)

/-- The double that a positive number is rounded to, its last place at `low` or above. -/
inductive Holds (low : Int) (x : ℚ) : UnpackedFloat → Prop
  | finite {f : UnpackedFloat} : Rounds x f → Ordinary low 971 f → Holds low x f
  | large {f : UnpackedFloat} {high : Int} : Rounds x f → Ordinary 972 high f →
      Holds low x (.infinity .positive)

variable {low low' high : Int}

theorem Holds.le_infinity (hf : Holds low x f) : f.le (.infinity .positive) = true := by
  cases hf with
  | finite hx hbits =>
    obtain ⟨m, e, hpos, rfl, -⟩ := hbits
    rfl
  | large => rfl

theorem Holds.le (hf : Holds low x f) (hg : Holds low' y g) (h : x ≤ y) : f.le g = true := by
  cases hf with
  | finite hx hbits =>
    cases hg with
    | finite hy hbits' => exact hbits.le_of_value_le hbits' (hx.value_le hy h)
    | large hy hbits' => exact le_infinity (.finite hx hbits)
  | large hx hbits =>
    cases hg with
    | finite hy hbits' =>
      have hle := hx.value_le hy h
      have hapart := zpow_lt_zpow (by decide : (971 : Int) < 972)
      have hlow := hbits.value_bounds.1
      have hhigh := hbits'.value_bounds.2
      exact absurd hle (not_le.2 (hhigh.trans_le (hapart.trans hlow)))
    | large hy hbits' => rfl

theorem Holds.pos (hf : Holds low x f) : (UnpackedFloat.zero .positive).lt f = true := by
  cases hf with
  | finite hx hbits =>
    obtain ⟨m, e, hpos, rfl, -⟩ := hbits
    rfl
  | large => rfl

theorem Rounds.holds (h : Rounds x f) (hbits : Ordinary low high f) (hlow : -1074 ≤ low) :
    Holds low x (packed f) := by
  obtain ⟨m, e, hpos, rfl, hm, hm', he, he'⟩ := hbits
  rw [packed]
  by_cases hsmall : e ≤ 971
  · rw [unpack_pack_normal hpos hm hm' (hlow.trans he) hsmall]
    exact .finite h ⟨m, e, hpos, rfl, hm, hm', he, hsmall⟩
  · rw [unpack_pack_large hpos (by omega)]
    exact .large h ⟨m, e, hpos, rfl, hm, hm', by omega, he'⟩

theorem holds_ofNat (hpos : 0 < n) : Holds (-52) n (Float.ofNat n).toModel.unpack := by
  by_cases hsmall : n < 2 ^ 53
  · obtain ⟨k, hk, hlow, hhigh, hmul, hnormal⟩ := normalize_of_lt hpos hsmall
    have hvalue : value (.finite .positive (n * 2 ^ k) (-k) hmul) = n := by
      simp [value]
    rw [unpack_ofNat_small hpos hsmall, hnormal]
    refine .finite ?_ ⟨_, _, hmul, rfl, hlow, hhigh, by omega, by omega⟩
    rw [← hvalue]
    exact rounds_value hlow hhigh hmul
  · have hround := rounds_roundWithAccuracy (e := -53) (by omega : 2 ^ 52 ≤ n * 2 ^ 53) (by decide)
      (shows_exact _)
    have hvalue : ((n * 2 ^ 53 : Nat) : ℚ) * 2 ^ (-53 : Int) = n := by
      push_cast
      rw [mul_assoc, zpow_neg]
      norm_num
    have hlog : 106 ≤ (n * 2 ^ 53).log2 := (Nat.le_log2 (by omega)).2 (by omega)
    have hbits : Ordinary (-52) _
        (roundWithAccuracy .binary64 .positive (n * 2 ^ 53) (-53) .exact) :=
      ordinary_roundWithAccuracy (by omega) (by decide) (by omega) le_rfl
    rw [hvalue] at hround
    rw [ofNat_large hsmall]
    exact hround.holds hbits (by decide)

/-! ### Ratios -/

/-- The quotient gets 53 bits more than it needs. -/
theorem divCore_of_le {e' : Int} (hm : 2 ^ 52 ≤ m) (hm' : m < 2 ^ 53) (hn : 2 ^ 52 ≤ n)
    (hn' : n < 2 ^ 53) (he : -1000 ≤ e - e') :
    divCore .binary64 m e n e' =
      (m * 2 ^ 53 / n, e - e' - 53, accuracyOfFraction (m * 2 ^ 53 % n) n) := by
  have hlog : m.log2 = 52 := (Nat.log2_eq_iff (by omega)).2 ⟨hm, hm'⟩
  have hlog' : n.log2 = 52 := (Nat.log2_eq_iff (by omega)).2 ⟨hn, hn'⟩
  have htarget : min (e - e') (Format.binary64.targetExponent
      (totalExponent m e - totalExponent n e')) = e - e' - 53 := by
    simp only [Format.targetExponent, totalExponent, hlog, hlog']
    change min (e - e') (max (_ - (53 : Nat)) (-1074)) = _
    omega
  have hshift : (e - e' - (e - e' - 53)).toNat = 53 := by omega
  simp only [divCore, htarget, hshift, Nat.shiftLeft_eq]

theorem div_of_le {e' : Int} (hm : 2 ^ 52 ≤ m) (hm' : m < 2 ^ 53) (hn : 2 ^ 52 ≤ n)
    (hn' : n < 2 ^ 53) (he : -1000 ≤ e - e') (hpos : 0 < m) (hpos' : 0 < n) :
    div .binary64 (.finite .positive m e hpos) (.finite .positive n e' hpos') =
      roundWithAccuracy .binary64 .positive (m * 2 ^ 53 / n) (e - e' - 53)
        (accuracyOfFraction (m * 2 ^ 53 % n) n) := by
  simp only [div, divCore_of_le hm hm' hn hn' he]
  rfl

theorem holds_div {d : UnpackedFloat} (hf : Ordinary (-52) 971 f) (hd : Ordinary (-52) 13 d) :
    Holds (-1074) (value f / value d) (packed (div .binary64 f d)) := by
  obtain ⟨m, e, hpos, rfl, hm, hm', he, -⟩ := hf
  obtain ⟨n, e', hpos', rfl, hn, hn', -, he'⟩ := hd
  have hquotient : 2 ^ 52 ≤ m * 2 ^ 53 / n := by
    rw [Nat.le_div_iff_mul_le hpos']
    exact Nat.mul_le_mul hm hn'.le
  have hvalue : ((m * 2 ^ 53 : Nat) / n : ℚ) * 2 ^ (e - e' - 53) = m * 2 ^ e / (n * 2 ^ e') := by
    rw [zpow_sub₀ (by norm_num), zpow_sub₀ (by norm_num)]
    push_cast
    field_simp
  have hround := rounds_roundWithAccuracy hquotient (by omega : -1074 ≤ e - e' - 53)
    (shows_fraction hpos')
  have hlog : 52 ≤ (m * 2 ^ 53 / n).log2 := (Nat.le_log2 (by omega)).2 hquotient
  rw [hvalue] at hround
  rw [div_of_le hm hm' hn hn' (by omega)]
  exact hround.holds (ordinary_roundWithAccuracy hquotient (by omega) (by omega) le_rfl) le_rfl

theorem packed_infinity_div {d : UnpackedFloat} {low high : Int} (hd : Ordinary low high d) :
    packed (div .binary64 (.infinity .positive) d) = .infinity .positive := by
  obtain ⟨n, e, hpos, rfl, -⟩ := hd
  exact unpack_packedInfinity .positive

/-- Divided by the same number the greater of two stays the greater. -/
theorem Holds.div_le {d : UnpackedFloat} (hf : Holds (-52) x f) (hg : Holds (-52) y g)
    (hd : Ordinary (-52) 13 d) (h : x ≤ y) :
    (packed (div .binary64 f d)).le (packed (div .binary64 g d)) = true := by
  cases hf with
  | finite hx hbits =>
    have hquotient := holds_div hbits hd
    cases hg with
    | finite hy hbits' =>
      apply hquotient.le (holds_div hbits' hd)
      exact div_le_div_of_nonneg_right (hx.value_le hy h) (value_nonneg d)
    | large =>
      rw [packed_infinity_div hd]
      exact hquotient.le_infinity
  | large hx hbits =>
    cases hg with
    | finite hy hbits' =>
      have hlarge : Holds (-52) x (.infinity .positive) := .large hx hbits
      have hle := hlarge.le (.finite hy hbits') h
      obtain ⟨m, e, hpos, rfl, -⟩ := hbits'
      cases hle
    | large =>
      rw [packed_infinity_div hd]
      rfl

theorem unpack_ratio (a c : Nat) : (Float.ofNat a / Float.ofNat c).toModel.unpack =
    packed (div .binary64 (Float.ofNat a).toModel.unpack (Float.ofNat c).toModel.unpack) := rfl

theorem unpack_zero_ratio (hc : 0 < c) (hc' : c < 2 ^ 64) :
    (Float.ofNat 0 / Float.ofNat c).toModel.unpack = .zero .positive := by
  obtain ⟨n, e, hpos, hfinite, -⟩ := ordinary_ofNat hc hc'
  have hzero : (Float.ofNat 0).toModel.unpack = .zero .positive := rfl
  rw [unpack_ratio, hzero, hfinite]
  exact unpack_packedZero

theorem unpack_ratio_self (hc : 0 < c) (hc' : c < 2 ^ 64) :
    (Float.ofNat c / Float.ofNat c).toModel.unpack = (1 : Float).toModel.unpack := by
  obtain ⟨n, e, hpos, hfinite, hn, hn', -⟩ := ordinary_ofNat hc hc'
  have hdiv : div .binary64 (.finite .positive n e hpos) (.finite .positive n e hpos) =
      .finite .positive (2 ^ 52) (-52) (by decide) := by
    have hquotient : n * 2 ^ 53 / n = 2 ^ 52 * 2 ^ 1 := Nat.mul_div_cancel_left _ hpos
    have hscale : e - e - 53 = -53 := by omega
    rw [div_of_le hn hn' hn hn' (by omega), hquotient, Nat.mul_mod_right, hscale]
    exact roundWithAccuracy_exact le_rfl (by decide) (by decide) (by decide)
  rw [unpack_ratio, hfinite, hdiv]
  exact unpack_pack_normal _ le_rfl (by decide) (by decide) (by decide)

theorem ratio_le_ratio (h : a ≤ b) (hc : 0 < c) (hc' : c < 2 ^ 64) :
    Float.ofNat a / Float.ofNat c ≤ Float.ofNat b / Float.ofNat c := by
  rcases Nat.eq_zero_or_pos a with rfl | ha
  · have hnonneg := zero_le_of_positive (sign?_ratio (n := b) hc hc')
    rwa [le_iff, unpack_zero, ← unpack_zero_ratio hc hc', ← le_iff] at hnonneg
  · rw [le_iff]
    apply (holds_ofNat ha).div_le (holds_ofNat (ha.trans_le h)) (ordinary_ofNat hc hc')
    exact_mod_cast h

theorem ratio_pos (ha : 0 < a) (ha' : a < 2 ^ 64) (hc : 0 < c) (hc' : c < 2 ^ 64) :
    0 < Float.ofNat a / Float.ofNat c := by
  have hbits : Ordinary (-52) 971 (Float.ofNat a).toModel.unpack :=
    (ordinary_ofNat ha ha').weaken le_rfl (by decide)
  rw [lt_iff, unpack_zero, unpack_ratio]
  exact (holds_div hbits (ordinary_ofNat hc hc')).pos

theorem ratio_le_one (h : a ≤ c) (hc : 0 < c) (hc' : c < 2 ^ 64) :
    Float.ofNat a / Float.ofNat c ≤ 1 := by
  rw [le_iff, ← unpack_ratio_self hc hc', ← le_iff]
  exact ratio_le_ratio h hc hc'

end PodPlacement.Double
