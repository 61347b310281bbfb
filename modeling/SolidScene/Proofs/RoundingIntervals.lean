import Mathlib.Algebra.Order.Field.Power
import Mathlib.Data.Rat.Cast.Order
import Mathlib.Tactic.FieldSimp
import Mathlib.Tactic.Linarith
import Mathlib.Tactic.Positivity
import Mathlib.Tactic.Ring
import SolidScene.Number

/-!
Rounding intervals as sets of rationals. A magnitude owns the rationals between
the points halfway to its neighbours, and the halfway points themselves when its
significand is even. The search for the shortest decimal stays inside that
interval, and the intervals of two magnitudes of numbers never meet, so a decimal
found by the search belongs to one magnitude only.
-/

namespace SolidScene

def Decimal.value (decimal : Decimal) : ℚ :=
  decimal.digits * (10 : ℚ) ^ decimal.exponent

namespace Magnitude

def value (magnitude : Magnitude) : ℚ :=
  magnitude.significand * (2 : ℚ) ^ magnitude.exponent

/-- Halfway to the number below, in quarters of the last place as `lowerGap`. -/
def lowerEnd (magnitude : Magnitude) : ℚ :=
  (4 * magnitude.significand - magnitude.lowerGap) / 4 * (2 : ℚ) ^ magnitude.exponent

def upperEnd (magnitude : Magnitude) : ℚ :=
  (4 * magnitude.significand + 2) / 4 * (2 : ℚ) ^ magnitude.exponent

/-- A rational rounds to a magnitude; a halfway point goes to the even one. -/
def Owns (magnitude : Magnitude) (x : ℚ) : Prop :=
  if magnitude.significand % 2 = 0 then magnitude.lowerEnd ≤ x ∧ x ≤ magnitude.upperEnd
  else magnitude.lowerEnd < x ∧ x < magnitude.upperEnd

/-- What the significand and the exponent of a number have in common. -/
structure Regular (magnitude : Magnitude) : Prop where
  bounded : magnitude.significand < 2 * Number.leadingBit
  least : Number.leastExponent ≤ magnitude.exponent
  normal : Number.leastExponent < magnitude.exponent →
    Number.leadingBit ≤ magnitude.significand

theorem lowerGap_cases (magnitude : Magnitude) :
    magnitude.lowerGap = 1 ∨ magnitude.lowerGap = 2 := by
  unfold lowerGap
  split
  · exact Or.inl rfl
  · exact Or.inr rfl

theorem owns_bounds {magnitude : Magnitude} {x : ℚ} (owned : magnitude.Owns x) :
    magnitude.lowerEnd ≤ x ∧ x ≤ magnitude.upperEnd := by
  unfold Owns at owned
  split at owned
  · exact owned
  · exact ⟨owned.1.le, owned.2.le⟩

theorem owns_odd {magnitude : Magnitude} {x : ℚ} (owned : magnitude.Owns x)
    (odd : magnitude.significand % 2 ≠ 0) : magnitude.lowerEnd < x ∧ x < magnitude.upperEnd := by
  rwa [Owns, if_neg odd] at owned

theorem owns_value (magnitude : Magnitude) : magnitude.Owns magnitude.value := by
  have place : (0 : ℚ) < (2 : ℚ) ^ magnitude.exponent := by positivity
  have below : magnitude.lowerEnd < magnitude.value := by
    unfold lowerEnd value
    apply mul_lt_mul_of_pos_right _ place
    rcases magnitude.lowerGap_cases with gap | gap <;> rw [gap] <;> push_cast <;> linarith
  have above : magnitude.value < magnitude.upperEnd := by
    unfold upperEnd value
    apply mul_lt_mul_of_pos_right _ place
    linarith
  unfold Owns
  split
  · exact ⟨below.le, above.le⟩
  · exact ⟨below, above⟩

theorem owned_pos {magnitude : Magnitude} {x : ℚ} (owned : magnitude.Owns x)
    (positive : 0 < magnitude.significand) : 0 < x := by
  have place : (0 : ℚ) < (2 : ℚ) ^ magnitude.exponent := by positivity
  have one : (1 : ℚ) ≤ magnitude.significand := by exact_mod_cast positive
  have lower : 0 < magnitude.lowerEnd := by
    unfold lowerEnd
    apply mul_pos _ place
    rcases magnitude.lowerGap_cases with gap | gap <;> rw [gap] <;> push_cast <;> linarith
  exact lower.trans_le (owns_bounds owned).1

/-! The comparisons of the search are between natural numbers: both sides are
taken times `gridScale` and divided by the last place. -/

theorem two_zpow_toNat (e : Int) : (2 : ℚ) ^ e * 2 ^ (-e).toNat = 2 ^ e.toNat := by
  rw [← zpow_natCast, ← zpow_natCast, ← zpow_add₀ (by norm_num)]
  congr 1
  omega

theorem ten_zpow_toNat (e : Int) : (10 : ℚ) ^ e * 10 ^ (-e).toNat = 10 ^ e.toNat := by
  rw [← zpow_natCast, ← zpow_natCast, ← zpow_add₀ (by norm_num)]
  congr 1
  omega

theorem gridScale_pos (magnitude : Magnitude) (place : Int) :
    (0 : ℚ) < magnitude.gridScale place := by
  have positive : 0 < magnitude.gridScale place := by
    unfold gridScale
    simp only [Nat.pow_eq]
    positivity
  exact_mod_cast positive

theorem gridStep_eq (magnitude : Magnitude) (place : Int) :
    (magnitude.gridStep place : ℚ) * 2 ^ magnitude.exponent =
      magnitude.gridScale place * 10 ^ place := by
  unfold gridStep gridScale
  simp only [Nat.pow_eq]
  push_cast
  calc (2 : ℚ) ^ (-magnitude.exponent).toNat * 10 ^ place.toNat * 2 ^ magnitude.exponent
      = (2 ^ magnitude.exponent * 2 ^ (-magnitude.exponent).toNat) * 10 ^ place.toNat := by ring
    _ = 2 ^ magnitude.exponent.toNat * (10 ^ place * 10 ^ (-place).toNat) := by
        rw [two_zpow_toNat, ten_zpow_toNat]
    _ = _ := by ring

def gridFactor (magnitude : Magnitude) (place : Int) : ℚ :=
  4 * magnitude.gridScale place / 2 ^ magnitude.exponent

theorem gridFactor_pos (magnitude : Magnitude) (place : Int) :
    0 < magnitude.gridFactor place := by
  have scale := magnitude.gridScale_pos place
  unfold gridFactor
  positivity

theorem quarters_scaled (magnitude : Magnitude) (place : Int) (quarters : ℚ) :
    quarters * magnitude.gridScale place =
      quarters / 4 * 2 ^ magnitude.exponent * magnitude.gridFactor place := by
  unfold gridFactor
  field_simp

theorem point_scaled (magnitude : Magnitude) (place : Int) (point : ℚ) :
    4 * point * magnitude.gridStep place =
      point * 10 ^ place * magnitude.gridFactor place := by
  have scaled : point * magnitude.gridStep place * 2 ^ magnitude.exponent =
      point * 10 ^ place * magnitude.gridScale place := by
    rw [mul_assoc, magnitude.gridStep_eq place]
    ring
  unfold gridFactor
  field_simp
  exact scaled

theorem admits_iff (magnitude : Magnitude) (place : Int) (point : Nat)
    (positive : 0 < magnitude.significand) :
    magnitude.admits place point = true ↔ magnitude.Owns (point * 10 ^ place) := by
  have factor := magnitude.gridFactor_pos place
  have gap : magnitude.lowerGap ≤ 4 * magnitude.significand := by
    rcases magnitude.lowerGap_cases with gap | gap <;> omega
  have target : ((4 * point * magnitude.gridStep place : Nat) : ℚ) =
      point * 10 ^ place * magnitude.gridFactor place := by
    push_cast
    exact magnitude.point_scaled place point
  have low : (((4 * magnitude.significand - magnitude.lowerGap) * magnitude.gridScale place :
      Nat) : ℚ) = magnitude.lowerEnd * magnitude.gridFactor place := by
    push_cast [Nat.cast_sub gap]
    exact magnitude.quarters_scaled place _
  have high : (((4 * magnitude.significand + 2) * magnitude.gridScale place : Nat) : ℚ) =
      magnitude.upperEnd * magnitude.gridFactor place := by
    push_cast
    exact magnitude.quarters_scaled place _
  -- both tests compare the same two rationals, times a positive factor
  unfold admits Owns
  split
  · rw [Bool.and_eq_true, decide_eq_true_eq, decide_eq_true_eq, ← Nat.cast_le (α := ℚ),
      ← Nat.cast_le (α := ℚ), target, low, high, mul_le_mul_iff_of_pos_right factor,
      mul_le_mul_iff_of_pos_right factor]
  · rw [Bool.and_eq_true, decide_eq_true_eq, decide_eq_true_eq, ← Nat.cast_lt (α := ℚ),
      ← Nat.cast_lt (α := ℚ), target, low, high, mul_lt_mul_iff_of_pos_right factor,
      mul_lt_mul_iff_of_pos_right factor]

theorem nearestPoint?_admits {magnitude : Magnitude} {place : Int} {point : Nat}
    (found : magnitude.nearestPoint? place = some point) :
    magnitude.admits place point = true := by
  unfold nearestPoint? at found
  dsimp only at found
  split at found
  case h_1 below above =>
    cases found
    split
    · exact below
    · exact above
  case h_2 below above =>
    cases found
    exact below
  case h_3 below above =>
    cases found
    exact above
  case h_4 => cases found

theorem finestPoint_value (magnitude : Magnitude) :
    (Decimal.mk (magnitude.significand * magnitude.gridScale (min magnitude.exponent 0) /
        magnitude.gridStep (min magnitude.exponent 0)) (min magnitude.exponent 0)).value =
      magnitude.value := by
  obtain ⟨significand, exponent⟩ := magnitude
  simp only [gridScale, gridStep, Decimal.value, value, Nat.pow_eq]
  rcases le_total 0 exponent with whole | broken
  · obtain ⟨e, rfl⟩ := Int.eq_ofNat_of_zero_le whole
    rw [min_eq_right whole]
    simp
  · obtain ⟨e, same⟩ := Int.eq_ofNat_of_zero_le (Int.neg_nonneg.2 broken)
    obtain rfl : exponent = -(e : Int) := by omega
    rw [min_eq_left broken]
    -- a step of this grid is `10 ^ -e`, so the significand times `5 ^ e` is a point of it
    have split : significand * (2 ^ (-(e : Int)).toNat * 10 ^ (- -(e : Int)).toNat) /
        (2 ^ (- -(e : Int)).toNat * 10 ^ (-(e : Int)).toNat) = significand * 5 ^ e := by
      have zero : (-(e : Int)).toNat = 0 := by omega
      rw [neg_neg, zero, Int.toNat_natCast, pow_zero, pow_zero, one_mul, mul_one,
        show (10 : Nat) = 5 * 2 from rfl, mul_pow, ← mul_assoc]
      exact Nat.mul_div_cancel _ (by positivity)
    rw [split]
    push_cast
    rw [zpow_neg, zpow_neg, zpow_natCast, zpow_natCast, show (10 : ℚ) = 5 * 2 by norm_num,
      mul_pow]
    field_simp

theorem searchGrids_owned (magnitude : Magnitude) (positive : 0 < magnitude.significand)
    (steps : Nat) :
    magnitude.Owns (magnitude.searchGrids (min magnitude.exponent 0) steps).value := by
  induction steps with
  | zero =>
    rw [searchGrids, finestPoint_value]
    exact magnitude.owns_value
  | succ steps ih =>
    rw [searchGrids]
    split
    case h_1 point found =>
      exact (magnitude.admits_iff _ point positive).1 (nearestPoint?_admits found)
    case h_2 => exact ih

theorem shortest_owned (magnitude : Magnitude) (positive : 0 < magnitude.significand) :
    magnitude.Owns magnitude.shortest.value :=
  magnitude.searchGrids_owned positive _

/-! Two regular magnitudes with one exponent differ in the significand; with two
exponents, the larger one is normal. Either way their intervals touch at most in
an end, and they do not touch when both significands are even. -/

/-- Ends that may coincide, but not when both of them count. -/
def Apart (lower upper : Magnitude) : Prop :=
  lower.upperEnd ≤ upper.lowerEnd ∧
    (lower.significand % 2 = 0 → upper.significand % 2 = 0 → lower.upperEnd < upper.lowerEnd)

theorem not_owned_by_both {lower upper : Magnitude} {x : ℚ} (apart : lower.Apart upper)
    (ownedLower : lower.Owns x) (ownedUpper : upper.Owns x) : False := by
  have low := (owns_bounds ownedLower).2
  have high := (owns_bounds ownedUpper).1
  -- only a common end is left, and it belongs to both just when both are even
  by_cases evenLower : lower.significand % 2 = 0
  · by_cases evenUpper : upper.significand % 2 = 0
    · exact absurd (apart.2 evenLower evenUpper) (not_lt.2 (high.trans low))
    · exact absurd ((owns_odd ownedUpper evenUpper).1.trans_le low) (not_lt.2 apart.1)
  · exact absurd (high.trans_lt (owns_odd ownedLower evenLower).2) (not_lt.2 apart.1)

theorem apart_of_significand_lt {lower upper : Magnitude}
    (level : lower.exponent = upper.exponent) (less : lower.significand < upper.significand) :
    lower.Apart upper := by
  have unit : (0 : ℚ) < 2 ^ upper.exponent := by positivity
  have gap : upper.lowerGap ≤ 2 := by
    rcases upper.lowerGap_cases with gap | gap <;> omega
  unfold Apart upperEnd lowerEnd
  rw [level]
  constructor
  · have quarters : 4 * lower.significand + 2 + upper.lowerGap ≤ 4 * upper.significand := by
      omega
    have quarters : (4 * lower.significand + 2 + upper.lowerGap : ℚ) ≤ 4 * upper.significand := by
      exact_mod_cast quarters
    apply mul_le_mul_of_nonneg_right _ unit.le
    linarith
  · intro evenLower evenUpper
    have quarters : 4 * lower.significand + 2 + upper.lowerGap < 4 * upper.significand := by
      omega
    have quarters : (4 * lower.significand + 2 + upper.lowerGap : ℚ) < 4 * upper.significand := by
      exact_mod_cast quarters
    apply mul_lt_mul_of_pos_right _ unit
    linarith

theorem leading_quarters_le {magnitude : Magnitude}
    (above : Number.leastExponent < magnitude.exponent)
    (normal : Number.leadingBit ≤ magnitude.significand) :
    4 * Number.leadingBit + magnitude.lowerGap ≤ 4 * magnitude.significand + 1 := by
  unfold lowerGap
  split
  · omega
  · next inner =>
    have larger : magnitude.significand ≠ Number.leadingBit := fun same => inner ⟨same, above⟩
    omega

theorem two_zpow_succ (e : Int) : (2 : ℚ) ^ (e + 1) = 2 * 2 ^ e := by
  rw [zpow_add_one₀ (by norm_num), mul_comm]

theorem two_mul_unit_le {lower upper : Int} (less : lower < upper) :
    (2 : ℚ) * 2 ^ lower ≤ 2 ^ upper := by
  rw [← two_zpow_succ]
  exact zpow_le_zpow_right₀ (by norm_num) (by omega)

theorem apart_of_exponent_lt {lower upper : Magnitude} (lowerRegular : lower.Regular)
    (upperRegular : upper.Regular) (less : lower.exponent < upper.exponent) :
    lower.Apart upper := by
  have above : Number.leastExponent < upper.exponent := lowerRegular.least.trans_lt less
  have start := leading_quarters_le above (upperRegular.normal above)
  have start : (4 * Number.leadingBit + upper.lowerGap : ℚ) ≤ 4 * upper.significand + 1 := by
    exact_mod_cast start
  have unit : (0 : ℚ) < 2 ^ lower.exponent := by positivity
  -- the last place of the larger magnitude is at least twice that of the smaller one
  have double := two_mul_unit_le less
  have leading : (1 : ℚ) ≤ Number.leadingBit := by
    exact_mod_cast (by decide : 1 ≤ Number.leadingBit)
  have bottom : (4 * Number.leadingBit - 1) / 4 * (2 * 2 ^ lower.exponent) ≤ upper.lowerEnd := by
    unfold lowerEnd
    apply mul_le_mul (by linarith) double (by positivity) (by linarith)
  unfold Apart
  constructor
  · refine le_trans ?_ bottom
    have quarters : (lower.significand + 1 : ℚ) ≤ 2 * Number.leadingBit := by
      exact_mod_cast lowerRegular.bounded
    unfold upperEnd
    rw [← mul_assoc]
    apply mul_le_mul_of_nonneg_right _ unit.le
    linarith
  · intro evenLower _
    refine lt_of_lt_of_le ?_ bottom
    have bound : lower.significand + 2 ≤ 2 * Number.leadingBit := by
      have bounded := lowerRegular.bounded
      omega
    have quarters : (lower.significand + 2 : ℚ) ≤ 2 * Number.leadingBit := by
      exact_mod_cast bound
    unfold upperEnd
    rw [← mul_assoc]
    apply mul_lt_mul_of_pos_right _ unit
    linarith

/-- A rational rounds to one magnitude of a number at most. -/
theorem owner_unique {left right : Magnitude} {x : ℚ} (leftRegular : left.Regular)
    (rightRegular : right.Regular) (ownedLeft : left.Owns x) (ownedRight : right.Owns x) :
    left = right := by
  rcases lt_trichotomy left.exponent right.exponent with less | level | less
  · exact (not_owned_by_both (apart_of_exponent_lt leftRegular rightRegular less)
      ownedLeft ownedRight).elim
  · rcases lt_trichotomy left.significand right.significand with less | same | less
    · exact (not_owned_by_both (apart_of_significand_lt level less) ownedLeft ownedRight).elim
    · cases left
      cases right
      cases level
      cases same
      rfl
    · exact (not_owned_by_both (apart_of_significand_lt level.symm less)
        ownedRight ownedLeft).elim
  · exact (not_owned_by_both (apart_of_exponent_lt rightRegular leftRegular less)
      ownedRight ownedLeft).elim

end Magnitude

namespace Number

theorem magnitude_regular (number : Number) : number.magnitude.Regular := by
  have fraction := number.fractionField_lt
  unfold magnitude
  split
  · refine ⟨?_, le_refl _, fun above => (lt_irrefl _ above).elim⟩
    dsimp only
    omega
  · refine ⟨?_, ?_, fun _ => Nat.le_add_right _ _⟩ <;> dsimp only <;> omega

theorem significand_pos {number : Number} (nonzero : number.isZero = false) :
    0 < number.magnitude.significand := by
  have leading : 0 < leadingBit := by decide
  unfold magnitude
  split
  · next subnormal =>
    rw [isZero, subnormal] at nonzero
    dsimp only
    apply Nat.pos_of_ne_zero
    intro fraction
    rw [fraction] at nonzero
    exact Bool.noConfusion nonzero
  · dsimp only
    omega

theorem fields_of_magnitude {left right : Number} (same : left.magnitude = right.magnitude) :
    left.exponentField = right.exponentField ∧ left.fractionField = right.fractionField := by
  have leftFraction := left.fractionField_lt
  have rightFraction := right.fractionField_lt
  unfold magnitude at same
  split at same <;> split at same <;> rw [Magnitude.mk.injEq] at same <;> omega

theorem bits_eq_fields (number : Number) :
    number.bits.toNat =
      (if number.isNegative then signBit else 0) +
        number.exponentField * leadingBit + number.fractionField := by
  have bound : number.bits.toNat < 2 ^ 64 := number.bits.toNat_lt
  unfold isNegative exponentField fractionField signBit leadingBit
  simp only [decide_eq_true_eq, Nat.pow_eq]
  split <;> omega

theorem eq_of_sign_and_magnitude {left right : Number}
    (sign : left.isNegative = right.isNegative) (same : left.magnitude = right.magnitude) :
    left = right := by
  obtain ⟨exponent, fraction⟩ := fields_of_magnitude same
  cases left
  cases right
  rw [Number.mk.injEq, ← UInt64.toNat_inj, bits_eq_fields ⟨_⟩, bits_eq_fields ⟨_⟩, sign, exponent,
    fraction]

end Number

end SolidScene
