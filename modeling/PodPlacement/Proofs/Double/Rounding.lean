import Mathlib

/-!
What scoring relies on in doubles: rounding keeps the sign, never passes a bound that is a whole
number of at most 53 bits, and neither loses nor blows up a number of ordinary size.
-/

namespace PodPlacement.Double

open Float.Model (Format UnpackedFloat totalExponent)
open Float.Model.UnpackedFloat

/-! ### Shifting and rounding mantissas -/

open ExtendedMantissa

variable {em : ExtendedMantissa} {m n k b : Nat} {e : Int} {s : Sign} {f : UnpackedFloat}

theorem le_roundedMantissa : em.mantissa ≤ em.roundedMantissa := by
  obtain ⟨m, round, sticky⟩ := em
  cases round <;> cases sticky <;>
    simp [roundedMantissa, accuracy, Accuracy.roundToNearestEven]

theorem roundedMantissa_le : em.roundedMantissa ≤ em.mantissa + 1 := by
  obtain ⟨m, round, sticky⟩ := em
  cases round <;> cases sticky <;>
    simp [roundedMantissa, accuracy, Accuracy.roundToNearestEven]
  omega

theorem mantissa_shiftRight : (em >>> k).mantissa = em.mantissa / 2 ^ k := by
  induction k with
  | zero => exact (Nat.div_one _).symm
  | succ k ih =>
    have hstep : em >>> (k + 1) = (em >>> k).shiftRightOne := rfl
    rw [hstep, shiftRightOne, ih, Nat.div_div_eq_div_mul, Nat.pow_succ]

theorem mantissa_ofMantissaAndAccuracy (accuracy : Accuracy) :
    (ofMantissaAndAccuracy m accuracy).mantissa = m := by
  cases accuracy with
  | exact => rfl
  | inexact half => cases half <;> rfl

theorem exact_shiftRight :
    ofMantissaAndAccuracy (n * 2 ^ k) .exact >>> k = ofMantissaAndAccuracy n .exact := by
  induction k generalizing n with
  | zero =>
    rw [Nat.pow_zero, Nat.mul_one]
    rfl
  | succ k ih =>
    have hdouble : n * 2 ^ (k + 1) = 2 * n * 2 ^ k := by ring
    have hstep (em : ExtendedMantissa) : em >>> (k + 1) = (em >>> k).shiftRightOne := rfl
    rw [hstep, hdouble, ih]
    simp [ofMantissaAndAccuracy, shiftRightOne]

/-- Rounding does not pass a whole number. -/
theorem roundedMantissa_le_of_le (h : m ≤ n * 2 ^ k) :
    (ofMantissaAndAccuracy m .exact >>> k).roundedMantissa ≤ n := by
  rcases h.lt_or_eq with hlt | rfl
  · have hfloor : m / 2 ^ k < n := Nat.div_lt_of_lt_mul (by rwa [Nat.mul_comm])
    have hround : (ofMantissaAndAccuracy m .exact >>> k).roundedMantissa ≤
        (ofMantissaAndAccuracy m .exact >>> k).mantissa + 1 := roundedMantissa_le
    rw [mantissa_shiftRight] at hround
    exact hround.trans hfloor
  · rw [exact_shiftRight]
    exact le_rfl

/-! ### Signs -/

def sign? : UnpackedFloat → Option Sign
  | .notANumber => none
  | .infinity s => some s
  | .zero s => some s
  | .finite s .. => some s

theorem sign?_unpack_packComponents {spec : Format} {exponent : BitVec spec.exponentBits}
    {mantissa : BitVec spec.mantissaBitsWithoutImplicit}
    (h : exponent = -1#_ → mantissa = 0#_) :
    sign? (unpack spec (packComponents spec s exponent mantissa)) = some s := by
  unfold unpack
  simp only [unpackExponent_packComponents, unpackMantissa_packComponents,
    unpackSign_packComponents, Sign.ofBitVec_toBitVec]
  split_ifs with htop hzero
  · rfl
  · exact absurd (h htop) hzero
  · rfl
  · rfl
  · rfl

theorem sign?_unpack_pack : sign? (unpack .binary64 (pack .binary64 f)) = sign? f := by
  cases f with
  | notANumber =>
    change sign? (unpack _ (packedNaN _)) = none
    rw [unpack_packedNaN]
    rfl
  | infinity s => exact sign?_unpack_packComponents fun _ ↦ rfl
  | zero s => exact sign?_unpack_packComponents fun _ ↦ rfl
  | finite s m e h =>
    simp only [pack]
    split_ifs with hlarge hnormal
    · exact sign?_unpack_packComponents fun _ ↦ rfl
    · refine sign?_unpack_packComponents fun htop ↦ ?_
      have hbits := congrArg BitVec.toNat htop
      simp at hbits hlarge
      omega
    · refine sign?_unpack_packComponents fun htop ↦ ?_
      cases htop

theorem sign?_roundWithAccuracy {spec : Format} {accuracy : Accuracy} :
    sign? (roundWithAccuracy spec s m e accuracy) = some s := by
  simp only [roundWithAccuracy]
  split_ifs <;> rfl

theorem sign?_normalize : sign? (normalize .binary64 (n : Int) e .positive) = some .positive := by
  cases n with
  | zero => rfl
  | succ n => exact sign?_roundWithAccuracy

theorem sign?_finite_mul (hpos : 0 < m) :
    sign? (mul .binary64 (.finite s m e hpos) f) = (sign? f).map (s * ·) := by
  cases f with
  | finite => exact sign?_roundWithAccuracy
  | _ => rfl

theorem sign?_mul_finite (hpos : 0 < m) :
    sign? (mul .binary64 f (.finite s m e hpos)) = (sign? f).map (· * s) := by
  cases f with
  | finite => exact sign?_roundWithAccuracy
  | _ => rfl

theorem sign?_div_finite (hpos : 0 < m) :
    sign? (div .binary64 f (.finite s m e hpos)) = (sign? f).map (· / s) := by
  cases f with
  | finite => exact sign?_roundWithAccuracy
  | _ => rfl

/-! ### Packing finite numbers -/

/-- The place of the last bit, such that there are 53 bits or it is the last place there is. -/
theorem targetExponent_totalExponent (m : Nat) (e : Int) :
    Format.binary64.targetExponent (totalExponent m e) = max (m.log2 + 1 + e - 53) (-1074) := rfl

/-- What unpacking can yield. -/
theorem finite_bounds {b : BitVec Format.binary64.numBits} (hpos : 0 < m)
    (h : unpack .binary64 b = .finite s m e hpos) : m < 2 ^ 53 ∧ -1074 ≤ e := by
  simp only [unpack] at h
  split_ifs at h with htop hzero hbottom hnone
  · cases h
    have hlt : (unpackMantissa b).toNat < 2 ^ 52 := BitVec.isLt _
    refine ⟨by omega, ?_⟩
    change (-1074 : Int) ≤ (unpackExponent b).toNat - (1023 + 52) + 1
    omega
  · cases h
    have hlt : (1#1 ++ unpackMantissa b).toNat < 2 ^ 53 := BitVec.isLt _
    have hpos : (unpackExponent b).toNat ≠ 0 := fun h0 ↦ hbottom (BitVec.toNat_inj.1 h0)
    refine ⟨hlt, ?_⟩
    change (-1074 : Int) ≤ (unpackExponent b).toNat - (1023 + 52)
    omega

theorem unpack_packComponents_normal {exponent mantissa : Nat} (hlow : 0 < exponent)
    (hhigh : exponent < 2047) (hpos : 0 < 2 ^ 52 + mantissa % 2 ^ 52) :
    unpack .binary64 (packComponents .binary64 s (.ofNat _ exponent) (.ofNat _ mantissa)) =
      .finite s (2 ^ 52 + mantissa % 2 ^ 52) (exponent - 1075) hpos := by
  have hsmall : exponent % 2048 = exponent := Nat.mod_eq_of_lt (by omega)
  have hother {c : BitVec Format.binary64.exponentBits} (hc : exponent ≠ c.toNat) :
      BitVec.ofNat _ exponent ≠ c := by
    rintro rfl
    exact hc hsmall.symm
  have htop : BitVec.ofNat Format.binary64.exponentBits exponent ≠ -1#_ :=
    hother (Nat.ne_of_lt hhigh)
  have hbottom : BitVec.ofNat Format.binary64.exponentBits exponent ≠ 0#_ :=
    hother (Nat.ne_of_gt hlow)
  have hmantissa : (1#1 ++ BitVec.ofNat 52 mantissa).toNat = 2 ^ 52 + mantissa % 2 ^ 52 := by
    rw [BitVec.toNat_append, ← Nat.shiftLeft_add_eq_or_of_lt (BitVec.isLt _)]
    simp
  simp only [unpack, unpackExponent_packComponents, unpackMantissa_packComponents,
    unpackSign_packComponents, Sign.ofBitVec_toBitVec, if_neg htop, if_neg hbottom, hmantissa]
  congr 1
  simp [hsmall, Format.exponentBias]

theorem unpack_packComponents_subnormal {mantissa : Nat} :
    unpack .binary64 (packComponents .binary64 s 0#_ (.ofNat _ mantissa)) =
      if h : mantissa % 2 ^ 52 = 0 then .zero s
      else .finite s (mantissa % 2 ^ 52) (-1074) (Nat.pos_of_ne_zero h) := by
  have htop : (0#11 : BitVec Format.binary64.exponentBits) ≠ -1#_ := by decide
  have hzero : BitVec.ofNat 52 mantissa = 0#_ ↔ mantissa % 2 ^ 52 = 0 := by
    rw [← BitVec.toNat_inj]
    simp
  simp only [unpack, unpackExponent_packComponents, unpackMantissa_packComponents,
    unpackSign_packComponents, Sign.ofBitVec_toBitVec, if_neg htop, if_true, hzero]
  split_ifs with h
  · rfl
  · congr 1

/-- Where a finite number is packed to. -/
theorem pack_finite (hpos : 0 < m) {b : Nat} (hb : e = b - 1075) (hsmall : b < 2047) :
    pack .binary64 (.finite s m e hpos) =
      if m.log2 = 52 then packComponents .binary64 s (.ofNat _ b) (.ofNat _ m)
      else packComponents .binary64 s 0#_ (.ofNat _ m) := by
  have hbiased : (e + (Format.binary64.exponentBias : Nat) + (52 : Nat)).toNat = b := by
    change (e + (1023 : Nat) + (52 : Nat)).toNat = b
    omega
  have hlarge : ¬ 2 ^ Format.binary64.exponentBits ≤ b + 1 := by
    change ¬ 2048 ≤ b + 1
    omega
  have hbits : m.log2 + 1 = Format.binary64.mantissaBits ↔ m.log2 = 52 := by
    change m.log2 + 1 = 53 ↔ m.log2 = 52
    omega
  simp only [pack, hbiased, if_neg hlarge, hbits]

theorem unpack_pack_normal (hpos : 0 < m) (hm : 2 ^ 52 ≤ m) (hm' : m < 2 ^ 53) (he : -1074 ≤ e)
    (he' : e ≤ 971) :
    unpack .binary64 (pack .binary64 (.finite s m e hpos)) = .finite s m e hpos := by
  obtain ⟨b, hb⟩ : ∃ b : Nat, e = b - 1075 := ⟨(e + 1075).toNat, by omega⟩
  have hlog : m.log2 = 52 := (Nat.log2_eq_iff (Nat.ne_of_gt hpos)).2 ⟨hm, hm'⟩
  have hmantissa : 2 ^ 52 + m % 2 ^ 52 = m := by omega
  rw [pack_finite hpos hb (by omega), if_pos hlog,
    unpack_packComponents_normal (by omega) (by omega) (by omega)]
  simp only [hmantissa, hb]

theorem unpack_packedInfinity (s : Sign) :
    unpack .binary64 (packedInfinity .binary64 s) = .infinity s := by
  simp only [packedInfinity, unpack, unpackExponent_packComponents, unpackMantissa_packComponents,
    unpackSign_packComponents, Sign.ofBitVec_toBitVec]
  rfl

theorem unpack_pack_large (hpos : 0 < m) (he : 972 ≤ e) :
    unpack .binary64 (pack .binary64 (.finite s m e hpos)) = .infinity s := by
  have hlarge : 2 ^ Format.binary64.exponentBits ≤
      (e + (Format.binary64.exponentBias : Nat) + (52 : Nat)).toNat + 1 := by
    change 2048 ≤ (e + (1023 : Nat) + (52 : Nat)).toNat + 1
    omega
  simp only [pack, if_pos hlarge]
  exact unpack_packedInfinity s

/-! ### Numbers up to a bound -/

/-- Nothing below zero and nothing above `k`; the exponent is as in all doubles. -/
inductive AtMost (k : Nat) : UnpackedFloat → Prop
  | zero (s : Sign) : AtMost k (.zero s)
  | finite {m b : Nat} (hpos : 0 < m) : b ≤ 1074 → m ≤ k * 2 ^ b →
      AtMost k (.finite .positive m (-b) hpos)

theorem AtMost.of_le {c : Nat} (hpos : 0 < m) (hbc : b ≤ c) (hc : c ≤ 1074) (h : m ≤ k * 2 ^ b) :
    AtMost k (.finite .positive m (-c) hpos) :=
  .finite hpos hc (h.trans (Nat.mul_le_mul_left k (Nat.pow_le_pow_right (by decide) hbc)))

/-- Of a number that 53 bits before the point can hold, rounding keeps bits behind the point. -/
theorem exists_shiftToTargetExponent (accuracy : Accuracy) (h : m < 2 ^ (53 + b)) :
    ∃ b' k, b = b' + k ∧ b' ≤ 1074 ∧ shiftToTargetExponent .binary64 m (-(b : Int)) accuracy =
      (ofMantissaAndAccuracy m accuracy >>> k, -(b' : Int)) := by
  have hlog : m.log2 < 53 + b := by
    by_cases hm : m = 0
    · rw [hm, Nat.log2_zero]
      omega
    · exact (Nat.log2_lt hm).2 h
  obtain ⟨t, ht⟩ : ∃ t : Int, t = max (m.log2 + 1 + -(b : Int) - 53) (-1074) := ⟨_, rfl⟩
  refine ⟨b - (t + b).toNat, (t + b).toNat, by omega, by omega, ?_⟩
  rw [shiftToTargetExponent, targetExponent_totalExponent, ← ht]
  refine Prod.ext ?_ ?_
  · simp [shiftToExponent]
  · simp only [shiftToExponent]
    omega

theorem AtMost.roundWithAccuracy (hk : k < 2 ^ 53) (h : m ≤ k * 2 ^ b) :
    AtMost k (roundWithAccuracy .binary64 .positive m (-b) .exact) := by
  have hfits {b n : Nat} (hn : n ≤ k * 2 ^ b) : n < 2 ^ (53 + b) := by
    rw [Nat.pow_add]
    exact hn.trans_lt (Nat.mul_lt_mul_of_pos_right hk (Nat.two_pow_pos b))
  obtain ⟨b₁, k₁, rfl, -, hshift₁⟩ := exists_shiftToTargetExponent .exact (hfits h)
  rw [Nat.pow_add, ← Nat.mul_assoc] at h
  have hround := roundedMantissa_le_of_le h
  obtain ⟨b₂, k₂, rfl, hb₂, hshift₂⟩ :=
    exists_shiftToTargetExponent .exact (hfits hround)
  simp only [Float.Model.UnpackedFloat.roundWithAccuracy, hshift₁, hshift₂]
  split_ifs with hzero
  · exact .zero _
  · refine .finite _ hb₂ ?_
    rw [mantissa_shiftRight]
    refine Nat.div_le_of_le_mul ?_
    rw [Nat.mul_comm, Nat.mul_assoc, ← Nat.pow_add]
    exact hround

theorem AtMost.unpack_pack (h : AtMost k f) :
    AtMost k (unpack .binary64 (pack .binary64 f)) := by
  cases h with
  | zero s =>
    change AtMost k (unpack _ (packedZero _ s))
    rw [unpack_packedZero]
    exact .zero s
  | @finite m b hpos hb hm =>
    obtain ⟨c, hc⟩ : ∃ c : Nat, -(b : Int) = c - 1075 := ⟨1075 - b, by omega⟩
    by_cases hlog : m.log2 = 52
    · obtain ⟨hlow, hhigh⟩ := (Nat.log2_eq_iff (Nat.ne_of_gt hpos)).1 hlog
      rw [unpack_pack_normal hpos hlow hhigh (by omega) (by omega)]
      exact .finite hpos hb hm
    · -- Without its leading bit a mantissa packs to its lower bits, which are no more than it is.
      rw [pack_finite hpos hc (by omega), if_neg hlog, unpack_packComponents_subnormal]
      split_ifs with hzero
      · exact .zero _
      · exact of_le (c := 1074) _ hb le_rfl ((Nat.mod_le _ _).trans hm)

theorem AtMost.toInt_le {high : Int} (h : AtMost k f) : (f.toInt 0 high).toNat ≤ k := by
  cases h with
  | zero s => exact Nat.zero_le k
  | @finite m b hpos hb hm =>
    have hround : roundToInt .positive m (-b) = (m / 2 ^ b : Nat) := by
      have hnone : (-(b : Int) - 0).toNat = 0 := by omega
      have hall : (0 - (-(b : Int) - (0 : Nat))).toNat = b := by omega
      simp only [roundToInt, decreaseExponent, shiftToExponent, hnone, hall, mantissa_shiftRight]
      rfl
    rw [toInt, hround, Int.toNat_natCast]
    exact Nat.div_le_of_le_mul (by rwa [Nat.mul_comm])

/-! ### Numbers of ordinary size -/

/-- A positive number with all its 53 bits, the last of them at a place from `low` to `high`. -/
def Ordinary (low high : Int) (f : UnpackedFloat) : Prop :=
  ∃ m e hpos, f = .finite .positive m e hpos ∧ 2 ^ 52 ≤ m ∧ m < 2 ^ 53 ∧ low ≤ e ∧ e ≤ high

theorem leading_bits (hm : 2 ^ 52 ≤ m) :
    2 ^ 52 ≤ m / 2 ^ (m.log2 - 52) ∧ m / 2 ^ (m.log2 - 52) < 2 ^ 53 := by
  have hne : m ≠ 0 := by omega
  have hlog : 52 ≤ m.log2 := (Nat.le_log2 hne).2 hm
  have hlow : 2 ^ m.log2 ≤ m := Nat.log2_self_le hne
  have hhigh : m < 2 ^ (m.log2 + 1) := Nat.lt_log2_self
  obtain ⟨k, hk⟩ := Nat.exists_eq_add_of_le hlog
  rw [hk, Nat.add_sub_cancel_left]
  constructor
  · rw [Nat.le_div_iff_mul_le (Nat.two_pow_pos k), ← Nat.pow_add, ← hk]
    exact hlow
  · rw [Nat.div_lt_iff_lt_mul (Nat.two_pow_pos k), ← Nat.pow_add, Nat.add_right_comm 52 1 k, ← hk]
    exact hhigh

theorem shiftToTargetExponent_of_le {accuracy : Accuracy} (hm : 2 ^ 52 ≤ m) (he : -1074 ≤ e) :
    shiftToTargetExponent .binary64 m e accuracy =
      (ofMantissaAndAccuracy m accuracy >>> (m.log2 - 52), e + (m.log2 - 52 : Nat)) := by
  have hlog : 52 ≤ m.log2 := (Nat.le_log2 (by omega)).2 hm
  have hamount : (max (m.log2 + 1 + e - 53) (-1074) - e).toNat = m.log2 - 52 := by omega
  rw [shiftToTargetExponent, targetExponent_totalExponent, shiftToExponent, hamount]

/-- A mantissa that fills all bits is rounded where it is shifted to, and fills them again. -/
theorem roundWithAccuracy_of_le {accuracy : Accuracy} {r : Nat} (hm : 2 ^ 52 ≤ m)
    (he : -1074 ≤ e)
    (hr : (ofMantissaAndAccuracy m accuracy >>> (m.log2 - 52)).roundedMantissa = r) :
    2 ^ 52 ≤ r ∧ r ≤ 2 ^ 53 ∧ ∃ hpos, roundWithAccuracy .binary64 s m e accuracy =
      .finite s (r / 2 ^ (r.log2 - 52)) (e + (m.log2 - 52 : Nat) + (r.log2 - 52 : Nat)) hpos := by
  have hfirst : (ofMantissaAndAccuracy m accuracy >>> (m.log2 - 52)).mantissa =
      m / 2 ^ (m.log2 - 52) := by rw [mantissa_shiftRight, mantissa_ofMantissaAndAccuracy]
  have hbits := leading_bits hm
  rw [← hfirst] at hbits
  have hfloor : 2 ^ 52 ≤ r := hr ▸ hbits.1.trans le_roundedMantissa
  have hceil : r ≤ 2 ^ 53 := hr ▸ roundedMantissa_le.trans hbits.2
  have hfinal := leading_bits hfloor
  have hsecond : (ofMantissaAndAccuracy r .exact >>> (r.log2 - 52)).mantissa =
      r / 2 ^ (r.log2 - 52) := mantissa_shiftRight
  simp only [roundWithAccuracy, shiftToTargetExponent_of_le hm he, hr,
    shiftToTargetExponent_of_le hfloor (by omega : -1074 ≤ e + (m.log2 - 52 : Nat)), hsecond]
  rw [dif_neg (by omega)]
  exact ⟨hfloor, hceil, by omega, rfl⟩

theorem ordinary_roundWithAccuracy {accuracy : Accuracy} {low high : Int} (hm : 2 ^ 52 ≤ m)
    (he : -1074 ≤ e) (hlow : low ≤ e + m.log2 - 52) (hhigh : e + m.log2 - 51 ≤ high) :
    Ordinary low high (roundWithAccuracy .binary64 .positive m e accuracy) := by
  obtain ⟨hfloor, hceil, hpos, hround⟩ := roundWithAccuracy_of_le (s := .positive) hm he rfl
  have hlog : 52 ≤ m.log2 := (Nat.le_log2 (by omega)).2 hm
  generalize (ofMantissaAndAccuracy m accuracy >>> (m.log2 - 52)).roundedMantissa = r at *
  have hrlog : 52 ≤ r.log2 ∧ r.log2 < 54 :=
    ⟨(Nat.le_log2 (by omega)).2 hfloor, (Nat.log2_lt (by omega)).2 (by omega)⟩
  have hfinal := leading_bits hfloor
  exact ⟨_, _, _, hround, hfinal.1, hfinal.2, by omega, by omega⟩

/-- What 53 bits can hold is not changed by rounding. -/
theorem roundWithAccuracy_exact (hm : 2 ^ 52 ≤ m) (hm' : m < 2 ^ 53) (hpos : 0 < m)
    (he : -1074 ≤ e) :
    roundWithAccuracy .binary64 s (m * 2 ^ k) e .exact = .finite s m (e + k) hpos := by
  have hlog : (m * 2 ^ k).log2 = 52 + k := by
    have hscale := Nat.two_pow_pos k
    rw [Nat.log2_eq_iff (Nat.ne_of_gt (Nat.mul_pos hpos hscale)), Nat.add_right_comm,
      Nat.pow_add 2 52, Nat.pow_add 2 (52 + 1)]
    exact ⟨Nat.mul_le_mul_right _ hm, Nat.mul_lt_mul_of_pos_right hm' hscale⟩
  have hfull : m.log2 = 52 := (Nat.log2_eq_iff (Nat.ne_of_gt hpos)).2 ⟨hm, hm'⟩
  have hround : (ofMantissaAndAccuracy (m * 2 ^ k) .exact >>>
      ((m * 2 ^ k).log2 - 52)).roundedMantissa = m := by
    rw [hlog, Nat.add_sub_cancel_left, exact_shiftRight]
    rfl
  have hlarge : 2 ^ 52 ≤ m * 2 ^ k := hm.trans (Nat.le_mul_of_pos_right m (Nat.two_pow_pos k))
  obtain ⟨_, _, _, heq⟩ := roundWithAccuracy_of_le (s := s) hlarge he hround
  rw [heq]
  simp [hlog, hfull]

theorem Ordinary.weaken {low high low' high' : Int} (h : Ordinary low high f) (hlow : low' ≤ low)
    (hhigh : high ≤ high') : Ordinary low' high' f := by
  obtain ⟨m, e, hpos, rfl, hm, hm', he, he'⟩ := h
  exact ⟨m, e, hpos, rfl, hm, hm', hlow.trans he, he'.trans hhigh⟩

theorem Ordinary.unpack_pack {low high : Int} (h : Ordinary low high f) (hlow : -1074 ≤ low)
    (hhigh : high ≤ 971) : unpack .binary64 (pack .binary64 f) = f := by
  obtain ⟨m, e, hpos, rfl, hm, hm', he, he'⟩ := h
  exact unpack_pack_normal hpos hm hm' (hlow.trans he) (he'.trans hhigh)

theorem Ordinary.mul_one {low high : Int} (h : Ordinary low high f) (hlow : -1022 ≤ low)
    (hone : 0 < 2 ^ 52) :
    mul .binary64 f (.finite .positive (2 ^ 52) (-52) hone) = f := by
  obtain ⟨m, e, hpos, rfl, hm, hm', he, he'⟩ := h
  have hproduct : roundWithAccuracy .binary64 .positive (m * 2 ^ 52) (e + -52) .exact =
      .finite .positive m (e + -52 + (52 : Nat)) hpos :=
    roundWithAccuracy_exact hm hm' hpos (by omega)
  have hplace : e + -52 + (52 : Nat) = e := by omega
  rwa [hplace] at hproduct

theorem normalize_pos (hpos : 0 < n) :
    normalize .binary64 (n : Int) e .positive = round .binary64 .positive n e := by
  cases n with
  | zero => cases hpos
  | succ n => rfl

/-- A whole number of at most 53 bits only gets the bits that are missing. -/
theorem normalize_of_lt (hpos : 0 < n) (h : n < 2 ^ 53) :
    ∃ k : Nat, k ≤ 52 ∧ 2 ^ 52 ≤ n * 2 ^ k ∧ n * 2 ^ k < 2 ^ 53 ∧ ∃ hmul,
      normalize .binary64 (n : Int) 0 .positive = .finite .positive (n * 2 ^ k) (-k) hmul := by
  have hne : n ≠ 0 := Nat.ne_of_gt hpos
  have hlog : n.log2 < 53 := (Nat.log2_lt hne).2 h
  obtain ⟨k, hk⟩ : ∃ k, n.log2 + k = 52 := ⟨52 - n.log2, by omega⟩
  have hlow : 2 ^ 52 ≤ n * 2 ^ k := by
    rw [← hk, Nat.pow_add]
    exact Nat.mul_le_mul_right _ (Nat.log2_self_le hne)
  have hhigh : n * 2 ^ k < 2 ^ 53 := by
    have hsplit : 2 ^ 53 = 2 ^ (n.log2 + 1) * 2 ^ k := by
      rw [← Nat.pow_add, Nat.add_right_comm, hk]
    rw [hsplit]
    exact Nat.mul_lt_mul_of_pos_right Nat.lt_log2_self (Nat.two_pow_pos k)
  have hamount : (0 - max ((n.log2 : Int) + 1 + 0 - 53) (-1074)).toNat = k := by omega
  have hround : round .binary64 .positive n 0 =
      roundWithAccuracy .binary64 .positive (n * 2 ^ k * 2 ^ 0) (0 - k) .exact := by
    rw [Float.Model.UnpackedFloat.round, targetExponent_totalExponent, decreaseExponent]
    simp only [hamount, Nat.shiftLeft_eq, Nat.pow_zero, Nat.mul_one]
  have hmul : 0 < n * 2 ^ k := Nat.mul_pos hpos (Nat.two_pow_pos k)
  refine ⟨k, by omega, hlow, hhigh, hmul, ?_⟩
  rw [normalize_pos hpos, hround, roundWithAccuracy_exact hlow hhigh hmul (by omega)]
  simp

theorem ordinary_normalize (hpos : 0 < n) (h : n < 2 ^ 53) :
    Ordinary (-52) 0 (normalize .binary64 (n : Int) 0 .positive) := by
  obtain ⟨k, hk, hlow, hhigh, hmul, hnormal⟩ := normalize_of_lt hpos h
  exact ⟨_, _, hmul, hnormal, hlow, hhigh, by omega, by omega⟩

end PodPlacement.Double
