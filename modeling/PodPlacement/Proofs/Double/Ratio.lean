import PodPlacement.Plugins.Preference
import PodPlacement.Proofs.Double.Rounding

/-!
The doubles that scores are computed from: counts, their ratios, and numbers up to one taken a
hundred times and cut off to whole numbers.
-/

namespace PodPlacement.Double

open Float.Model (Format UnpackedFloat)
open Float.Model.UnpackedFloat

variable {n k : Nat}

/-! ### Counts -/

theorem unpack_mul (x y : Float) : (x * y).toModel.unpack =
    unpack .binary64 (pack .binary64 (mul .binary64 x.toModel.unpack y.toModel.unpack)) := rfl

theorem unpack_div (x y : Float) : (x / y).toModel.unpack =
    unpack .binary64 (pack .binary64 (div .binary64 x.toModel.unpack y.toModel.unpack)) := rfl

def one : Float := .ofBits 0x3FF0000000000000

theorem unpack_one : one.toModel.unpack = .finite .positive (2 ^ 52) (-52) (by decide) := rfl

theorem ofNat_small (h : n < 2 ^ 53) : Float.ofNat n = n.toUInt64.toFloat * one := by
  have hcase : n < 2 ^ 53 ∧ 0 ≤ 22 := ⟨h, by omega⟩
  exact dif_pos hcase

theorem ofNat_large (h : ¬ n < 2 ^ 53) : (Float.ofNat n).toModel.unpack =
    unpack .binary64 (pack .binary64
      (roundWithAccuracy .binary64 .positive (n * 2 ^ 53) (-53) .exact)) := by
  have hslow : Float.ofNat n = .ofModel (.ofScientific n 0) := dif_neg fun hn ↦ h hn.1
  have hne : n ≠ 0 := by omega
  have hscientific : ofScientific .binary64 n 0 =
      roundWithAccuracy .binary64 .positive (n * 2 ^ 53) (-53) .exact := by
    have hlarge : ¬ (0 : Int) < -(2 ^ Format.binary64.exponentBits + n.log2) := by
      change ¬ (0 : Int) < -(2048 + n.log2)
      omega
    have hpower : 10 ^ Int.toNat 0 = 1 := rfl
    rw [ofScientific, dif_neg hne, if_neg (by decide), if_neg hlarge, if_pos le_rfl]
    simp only [mul, Nat.shiftLeft_eq, hpower, Nat.mul_one]
    rfl
  rw [hslow, ← hscientific]
  rfl

theorem unpack_toFloat (h : n < 2 ^ 53) : n.toUInt64.toFloat.toModel.unpack =
    unpack .binary64 (pack .binary64 (normalize .binary64 n 0 .positive)) := by
  have hsame : n.toUInt64.toNat = n := Nat.mod_eq_of_lt (by omega)
  change unpack _ (pack _ (normalize _ (n.toUInt64.toNat : Int) _ _)) = _
  rw [hsame]

theorem sign?_ofNat : sign? (Float.ofNat n).toModel.unpack = some .positive := by
  by_cases h : n < 2 ^ 53
  · rw [ofNat_small h, unpack_mul, sign?_unpack_pack, unpack_one, sign?_mul_finite,
      unpack_toFloat h, sign?_unpack_pack, sign?_normalize]
    rfl
  · rw [ofNat_large h, sign?_unpack_pack, sign?_roundWithAccuracy]

theorem unpack_ofNat_small (hpos : 0 < n) (h : n < 2 ^ 53) :
    (Float.ofNat n).toModel.unpack = normalize .binary64 n 0 .positive := by
  have hnormal := ordinary_normalize hpos h
  have hkept := hnormal.unpack_pack (by decide) (by decide)
  rw [ofNat_small h, unpack_mul, unpack_one, unpack_toFloat h, hkept,
    hnormal.mul_one (by decide) (by decide), hkept]

theorem ordinary_ofNat (hpos : 0 < n) (h : n < 2 ^ 64) :
    Ordinary (-52) 13 (Float.ofNat n).toModel.unpack := by
  by_cases hsmall : n < 2 ^ 53
  · rw [unpack_ofNat_small hpos hsmall]
    exact (ordinary_normalize hpos hsmall).weaken le_rfl (by decide)
  · have hlow : 106 ≤ (n * 2 ^ 53).log2 := (Nat.le_log2 (by omega)).2 (by omega)
    have hhigh : (n * 2 ^ 53).log2 < 117 := (Nat.log2_lt (by omega)).2 (by omega)
    rw [ofNat_large hsmall]
    have hround : Ordinary (-52) 13
        (roundWithAccuracy .binary64 .positive (n * 2 ^ 53) (-53) .exact) :=
      ordinary_roundWithAccuracy (by omega) (by decide) (by omega) (by omega)
    rwa [hround.unpack_pack (by decide) (by decide)]

/-! ### Comparing and cutting off -/

theorem le_iff {x y : Float} : x ≤ y ↔ x.toModel.unpack.le y.toModel.unpack = true := by
  change decide (x.toModel ≤ y.toModel) = true ↔ _
  rw [decide_eq_true_iff]
  rfl

theorem lt_iff {x y : Float} : x < y ↔ x.toModel.unpack.lt y.toModel.unpack = true := by
  change decide (x.toModel < y.toModel) = true ↔ _
  rw [decide_eq_true_iff]
  rfl

theorem unpack_zero : (0 : Float).toModel.unpack = .zero .positive := rfl

theorem le_zero_of_negative {x : Float} (h : sign? x.toModel.unpack = some .negative) :
    x ≤ 0 := by
  rw [le_iff, unpack_zero]
  cases hx : x.toModel.unpack with
  | notANumber =>
    rw [hx] at h
    cases h
  | _ =>
    rw [hx] at h
    cases h
    rfl

theorem zero_le_of_positive {x : Float} (h : sign? x.toModel.unpack = some .positive) :
    0 ≤ x := by
  rw [le_iff, unpack_zero]
  cases hx : x.toModel.unpack with
  | notANumber =>
    rw [hx] at h
    cases h
  | _ =>
    rw [hx] at h
    cases h
    rfl

theorem AtMost.not_lt_zero {x : Float} (h : AtMost k x.toModel.unpack) : ¬ x < 0 := by
  rw [lt_iff, unpack_zero]
  generalize x.toModel.unpack = f at h
  cases h <;> exact Bool.false_ne_true

theorem atMost_one {y : Float} (h : 0 ≤ y) (h' : y ≤ 1) : AtMost 1 y.toModel.unpack := by
  have hone : (1 : Float).toModel.unpack = .finite .positive (2 ^ 52) (-52) (by decide) := rfl
  rw [le_iff, unpack_zero] at h
  rw [le_iff, hone] at h'
  cases hy : y.toModel.unpack with
  | notANumber =>
    rw [hy] at h
    cases h
  | infinity s =>
    rw [hy] at h h'
    cases s
    · cases h
    · cases h'
  | zero s => exact .zero s
  | finite s m e hpos =>
    rw [hy] at h h'
    cases s with
    | negative => cases h
    | positive =>
      obtain ⟨hm, he⟩ := finite_bounds hpos hy
      have hcompare : ((compare e (-52)).then (compare m (2 ^ 52))).isLE = true := h'
      have hnonpos : e ≤ -52 := Int.isLE_compare.1 (Ordering.isLE_left_of_isLE_then hcompare)
      obtain ⟨b, rfl⟩ : ∃ b : Nat, e = -b := ⟨(-e).toNat, by omega⟩
      refine .finite hpos (by omega) ?_
      rw [Nat.one_mul]
      rcases Ordering.isLE_then_iff_or.1 hcompare with hlt | ⟨heq, hle⟩
      · have hb := Int.compare_eq_lt.1 hlt
        exact hm.le.trans (Nat.pow_le_pow_right (by decide) (by omega))
      · have hb := Int.compare_eq_eq.1 heq
        have hexact : b = 52 := by omega
        exact hexact ▸ Nat.isLE_compare.1 hle

/-- What is left of a number up to a bound when all behind the point is cut off. -/
theorem AtMost.wholePart {x : Float} (h : AtMost k x.toModel.unpack) (hk : k < 2 ^ 63) :
    0 ≤ Plugins.wholePart x ∧ Plugins.wholePart x ≤ k := by
  have hint : (x.toModel.unpack.toInt 0 (UInt64.size - 1)).toNat ≤ k := h.toInt_le
  have hsize : x.toUInt64.toNat ≤ k := by
    change (UInt64.ofNatClamp _).toNat ≤ k
    rw [UInt64.ofNatClamp_eq_ofNat _ (hint.trans_lt (hk.trans (by decide)))]
    exact (Nat.mod_le _ _).trans hint
  simp only [Plugins.wholePart, if_neg h.not_lt_zero, Text.IntegerRange.clamp,
    Text.IntegerRange.signed64]
  omega

/-! ### Scores that fall off -/

theorem AtMost.hundred_mul {y : Float} (h : AtMost 1 y.toModel.unpack) :
    AtMost 100 (100.0 * y).toModel.unpack := by
  have hhundred : (100.0 : Float).toModel.unpack =
      .finite .positive (100 * 2 ^ 46) (-46) (by decide) := rfl
  rw [unpack_mul, hhundred]
  refine AtMost.unpack_pack ?_
  generalize y.toModel.unpack = f at h
  cases h with
  | zero s => exact .zero _
  | @finite m b hpos hb hm =>
    have hexponent : -46 + -(b : Int) = -((46 + b : Nat) : Int) := by omega
    change AtMost 100 (Float.Model.UnpackedFloat.roundWithAccuracy _ _ (100 * 2 ^ 46 * m)
      (-46 + -(b : Int)) _)
    rw [hexponent]
    refine AtMost.roundWithAccuracy (by decide) ?_
    rw [Nat.one_mul] at hm
    rw [Nat.pow_add, ← Nat.mul_assoc]
    exact Nat.mul_le_mul_left _ hm

/-- A ratio of counts is a number and not negative. -/
theorem sign?_ratio {highest : Nat} (hpos : 0 < highest) (h : highest < 2 ^ 64) :
    sign? (Float.ofNat n / Float.ofNat highest).toModel.unpack = some .positive := by
  obtain ⟨m, e, hm, hfinite, -⟩ := ordinary_ofNat hpos h
  rw [unpack_div, sign?_unpack_pack, hfinite, sign?_div_finite, sign?_ofNat]
  rfl

theorem neg_five_mul_nonpos {ratio : Float} (h : sign? ratio.toModel.unpack = some .positive) :
    -5.0 * ratio ≤ 0 := by
  have hfive : (-5.0 : Float).toModel.unpack =
      .finite .negative (5 * 2 ^ 50) (-50) (by decide) := rfl
  refine le_zero_of_negative ?_
  rw [unpack_mul, sign?_unpack_pack, hfive, sign?_finite_mul, h]
  rfl

end PodPlacement.Double
