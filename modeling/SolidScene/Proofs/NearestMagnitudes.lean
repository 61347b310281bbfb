import SolidScene.Proofs.RoundingIntervals

/-!
Nearest magnitudes. To round is to take the magnitude at the least distance, and
of two at the same distance the one with the even significand. The interval that
a magnitude owns is exactly what rounds to it in this sense: its ends lie halfway
to the neighbours, and everything else regular lies beyond the neighbours.
-/

namespace SolidScene

namespace Magnitude

/-- Nothing regular is closer to `x`, and whatever is just as close leaves the
even significand here. -/
structure Nearest (magnitude : Magnitude) (x : ℚ) : Prop where
  closest : ∀ other : Magnitude, other.Regular → |x - magnitude.value| ≤ |x - other.value|
  even : ∀ other : Magnitude, other.Regular → other ≠ magnitude →
    |x - magnitude.value| = |x - other.value| → magnitude.significand % 2 = 0

theorem lower_closer_iff {x lower upper : ℚ} (less : lower < upper) :
    |x - lower| ≤ |x - upper| ↔ 2 * x ≤ lower + upper := by
  rw [← sq_le_sq]
  constructor
  · intro closer
    by_contra beyond
    nlinarith
  · intro before
    nlinarith

theorem upper_closer_iff {x lower upper : ℚ} (less : lower < upper) :
    |x - upper| ≤ |x - lower| ↔ lower + upper ≤ 2 * x := by
  rw [← sq_le_sq]
  constructor
  · intro closer
    by_contra beyond
    nlinarith
  · intro before
    nlinarith

/-- The order of regular magnitudes, by exponent and then by significand. -/
def Below (lower upper : Magnitude) : Prop :=
  lower.exponent < upper.exponent ∨
    (lower.exponent = upper.exponent ∧ lower.significand < upper.significand)

theorem below_or_below {left right : Magnitude} (different : left ≠ right) :
    left.Below right ∨ right.Below left := by
  obtain ⟨leftSignificand, leftExponent⟩ := left
  obtain ⟨rightSignificand, rightExponent⟩ := right
  rw [Ne, Magnitude.mk.injEq] at different
  unfold Below
  dsimp only
  omega

theorem leading_halves_le {magnitude : Magnitude}
    (above : Number.leastExponent < magnitude.exponent)
    (normal : Number.leadingBit ≤ magnitude.significand) :
    2 * Number.leadingBit + magnitude.lowerGap ≤ 2 * magnitude.significand + 1 := by
  have quarters := leading_quarters_le above normal
  rcases magnitude.lowerGap_cases with gap | gap <;> omega

theorem value_add_unit_le {lower upper : Magnitude} (lowerRegular : lower.Regular)
    (upperRegular : upper.Regular) (below : lower.Below upper) :
    lower.value + 2 ^ lower.exponent ≤ upper.value := by
  have unit : (0 : ℚ) < 2 ^ lower.exponent := by positivity
  have next : lower.value + 2 ^ lower.exponent =
      ((lower.significand + 1 : Nat) : ℚ) * 2 ^ lower.exponent := by
    unfold value
    push_cast
    ring
  rw [next]
  rcases below with less | ⟨level, less⟩
  · -- twice the leading bit bounds the lower significand, and the upper one has it at
    -- an exponent that is larger
    have double := two_mul_unit_le less
    have normal := upperRegular.normal (lowerRegular.least.trans_lt less)
    calc ((lower.significand + 1 : Nat) : ℚ) * 2 ^ lower.exponent
        ≤ ((2 * Number.leadingBit : Nat) : ℚ) * 2 ^ lower.exponent := by
          apply mul_le_mul_of_nonneg_right _ unit.le
          exact_mod_cast lowerRegular.bounded
      _ = Number.leadingBit * (2 * 2 ^ lower.exponent) := by
          push_cast
          ring
      _ ≤ upper.value := by
          unfold value
          exact mul_le_mul (by exact_mod_cast normal) double (by positivity) (by positivity)
  · unfold value
    rw [← level]
    apply mul_le_mul_of_nonneg_right _ unit.le
    exact_mod_cast less

theorem value_le_sub_gap {lower upper : Magnitude} (lowerRegular : lower.Regular)
    (upperRegular : upper.Regular) (below : lower.Below upper) :
    lower.value ≤ upper.value - upper.lowerGap / 2 * 2 ^ upper.exponent := by
  have unit : (0 : ℚ) < 2 ^ upper.exponent := by positivity
  have rest : upper.value - upper.lowerGap / 2 * 2 ^ upper.exponent =
      (upper.significand - upper.lowerGap / 2) * 2 ^ upper.exponent := by
    unfold value
    ring
  rw [rest]
  rcases below with less | ⟨level, less⟩
  · have above := lowerRegular.least.trans_lt less
    have halves := leading_halves_le above (upperRegular.normal above)
    have halves : (2 * Number.leadingBit + upper.lowerGap : ℚ) ≤ 2 * upper.significand + 1 := by
      exact_mod_cast halves
    have bounded : (lower.significand + 1 : ℚ) ≤ 2 * Number.leadingBit := by
      exact_mod_cast lowerRegular.bounded
    have double := two_mul_unit_le less
    have leading : (1 : ℚ) ≤ Number.leadingBit := by
      exact_mod_cast (by decide : 1 ≤ Number.leadingBit)
    calc lower.value
        ≤ (2 * Number.leadingBit - 1) * 2 ^ lower.exponent := by
          unfold value
          apply mul_le_mul_of_nonneg_right _ (by positivity)
          linarith
      _ = (Number.leadingBit - 1 / 2) * (2 * 2 ^ lower.exponent) := by ring
      _ ≤ (upper.significand - upper.lowerGap / 2) * 2 ^ upper.exponent :=
          mul_le_mul (by linarith) double (by positivity) (by linarith)
  · have gap : (upper.lowerGap : ℚ) ≤ 2 := by
      rcases upper.lowerGap_cases with gap | gap <;> rw [gap] <;> norm_num
    have less : (lower.significand + 1 : ℚ) ≤ upper.significand := by exact_mod_cast less
    unfold value
    rw [level]
    apply mul_le_mul_of_nonneg_right _ unit.le
    linarith

/-! The neighbours at exactly these distances. -/

theorem exists_above {magnitude : Magnitude} (regular : magnitude.Regular) :
    ∃ next : Magnitude, next.Regular ∧ next.value = magnitude.value + 2 ^ magnitude.exponent := by
  have leading : 0 < Number.leadingBit := by decide
  have bounded := regular.bounded
  have least := regular.least
  by_cases room : magnitude.significand + 1 < 2 * Number.leadingBit
  · refine ⟨⟨magnitude.significand + 1, magnitude.exponent⟩,
      ⟨room, least, fun above => ?_⟩, ?_⟩
    · exact (regular.normal above).trans (Nat.le_succ _)
    · unfold value
      push_cast
      ring
  · -- a full significand carries into the exponent
    have full : magnitude.significand + 1 = 2 * Number.leadingBit := by omega
    refine ⟨⟨Number.leadingBit, magnitude.exponent + 1⟩,
      ⟨by dsimp only; omega, by dsimp only; omega, fun _ => le_refl _⟩, ?_⟩
    have full : (magnitude.significand + 1 : ℚ) = 2 * Number.leadingBit := by
      exact_mod_cast full
    calc (Number.leadingBit : ℚ) * 2 ^ (magnitude.exponent + 1)
        = 2 * Number.leadingBit * 2 ^ magnitude.exponent := by
          rw [two_zpow_succ]
          ring
      _ = (magnitude.significand + 1) * 2 ^ magnitude.exponent := by rw [full]
      _ = magnitude.value + 2 ^ magnitude.exponent := by
          unfold value
          ring

theorem exists_below {magnitude : Magnitude} (regular : magnitude.Regular)
    (positive : 0 < magnitude.significand) :
    ∃ previous : Magnitude, previous.Regular ∧
      previous.value = magnitude.value - magnitude.lowerGap / 2 * 2 ^ magnitude.exponent := by
  have leading : 0 < Number.leadingBit := by decide
  have bounded := regular.bounded
  have least := regular.least
  by_cases lead : magnitude.significand = Number.leadingBit ∧
      Number.leastExponent < magnitude.exponent
  · refine ⟨⟨2 * Number.leadingBit - 1, magnitude.exponent - 1⟩,
      ⟨by dsimp only; omega, by dsimp only; omega, fun _ => by dsimp only; omega⟩, ?_⟩
    have half : (2 : ℚ) ^ magnitude.exponent = 2 * 2 ^ (magnitude.exponent - 1) := by
      rw [← two_zpow_succ, sub_add_cancel]
    unfold value lowerGap
    rw [if_pos lead, half, lead.1, Nat.cast_sub (by omega)]
    push_cast
    ring
  · refine ⟨⟨magnitude.significand - 1, magnitude.exponent⟩,
      ⟨by dsimp only; omega, least, fun above => ?_⟩, ?_⟩
    · have normal := regular.normal above
      have notLeading : magnitude.significand ≠ Number.leadingBit := fun same =>
        lead ⟨same, above⟩
      dsimp only
      omega
    · unfold value lowerGap
      rw [if_neg lead, Nat.cast_sub (by omega)]
      push_cast
      ring

theorem upperEnd_eq (magnitude : Magnitude) :
    2 * magnitude.upperEnd = 2 * magnitude.value + 2 ^ magnitude.exponent := by
  unfold upperEnd value
  ring

theorem lowerEnd_eq (magnitude : Magnitude) :
    2 * magnitude.lowerEnd =
      2 * magnitude.value - magnitude.lowerGap / 2 * 2 ^ magnitude.exponent := by
  unfold lowerEnd value
  ring

theorem lowerGap_pos (magnitude : Magnitude) : (0 : ℚ) < magnitude.lowerGap := by
  rcases magnitude.lowerGap_cases with gap | gap <;> rw [gap] <;> norm_num

theorem nearest_of_owns {magnitude : Magnitude} {x : ℚ} (regular : magnitude.Regular)
    (owned : magnitude.Owns x) : magnitude.Nearest x := by
  have unit : (0 : ℚ) < 2 ^ magnitude.exponent := by positivity
  have gap := mul_pos (half_pos magnitude.lowerGap_pos) unit
  obtain ⟨low, high⟩ := owns_bounds owned
  have lowerEnd := magnitude.lowerEnd_eq
  have upperEnd := magnitude.upperEnd_eq
  constructor
  · intro other otherRegular
    by_cases same : magnitude = other
    · rw [same]
    · rcases below_or_below same with below | below
      · have distance := value_add_unit_le regular otherRegular below
        exact (lower_closer_iff (by linarith)).2 (by linarith)
      · have distance := value_le_sub_gap otherRegular regular below
        exact (upper_closer_iff (by linarith)).2 (by linarith)
  · intro other otherRegular different tie
    by_contra odd
    obtain ⟨low, high⟩ := owns_odd owned odd
    -- a tie puts `x` beyond the end of the interval that faces the other magnitude
    rcases below_or_below different.symm with below | below
    · have distance := value_add_unit_le regular otherRegular below
      have middle := (upper_closer_iff (by linarith)).1 tie.ge
      linarith
    · have distance := value_le_sub_gap otherRegular regular below
      have middle := (lower_closer_iff (by linarith)).1 tie.ge
      linarith

theorem upper_side_of_nearest {magnitude : Magnitude} {x : ℚ} (regular : magnitude.Regular)
    (nearest : magnitude.Nearest x) :
    x ≤ magnitude.upperEnd ∧ (magnitude.significand % 2 ≠ 0 → x ≠ magnitude.upperEnd) := by
  have unit : (0 : ℚ) < 2 ^ magnitude.exponent := by positivity
  have upperEnd := magnitude.upperEnd_eq
  obtain ⟨next, nextRegular, above⟩ := exists_above regular
  have less : magnitude.value < next.value := by linarith
  constructor
  · have middle := (lower_closer_iff less).1 (nearest.closest next nextRegular)
    linarith
  · intro odd atEnd
    have tie : |x - magnitude.value| = |x - next.value| :=
      le_antisymm ((lower_closer_iff less).2 (by linarith))
        ((upper_closer_iff less).2 (by linarith))
    exact odd (nearest.even next nextRegular (fun same => less.ne (by rw [same])) tie)

theorem lower_side_of_nearest {magnitude : Magnitude} {x : ℚ} (regular : magnitude.Regular)
    (nonneg : 0 ≤ x) (nearest : magnitude.Nearest x) :
    magnitude.lowerEnd ≤ x ∧ (magnitude.significand % 2 ≠ 0 → x ≠ magnitude.lowerEnd) := by
  have unit : (0 : ℚ) < 2 ^ magnitude.exponent := by positivity
  have gap := mul_pos (half_pos magnitude.lowerGap_pos) unit
  have lowerEnd := magnitude.lowerEnd_eq
  rcases Nat.eq_zero_or_pos magnitude.significand with zero | positive
  · -- nothing lies below zero, and `x` does not either
    refine ⟨?_, fun odd => absurd (by rw [zero]) odd⟩
    have value : magnitude.value = 0 := by
      unfold value
      rw [zero, Nat.cast_zero, zero_mul]
    linarith
  · obtain ⟨previous, previousRegular, below⟩ := exists_below regular positive
    have less : previous.value < magnitude.value := by linarith
    constructor
    · have middle := (upper_closer_iff less).1 (nearest.closest previous previousRegular)
      linarith
    · intro odd atEnd
      have tie : |x - magnitude.value| = |x - previous.value| :=
        le_antisymm ((upper_closer_iff less).2 (by linarith))
          ((lower_closer_iff less).2 (by linarith))
      exact odd (nearest.even previous previousRegular (fun same => less.ne (by rw [same])) tie)

/-- The rounding interval of a magnitude holds what the magnitude is nearest to. -/
theorem nearest_iff_owns {magnitude : Magnitude} {x : ℚ} (regular : magnitude.Regular)
    (nonneg : 0 ≤ x) : magnitude.Nearest x ↔ magnitude.Owns x := by
  refine ⟨fun nearest => ?_, nearest_of_owns regular⟩
  obtain ⟨low, notLow⟩ := lower_side_of_nearest regular nonneg nearest
  obtain ⟨high, notHigh⟩ := upper_side_of_nearest regular nearest
  unfold Owns
  split
  · exact ⟨low, high⟩
  · next odd => exact ⟨lt_of_le_of_ne low (notLow odd).symm, lt_of_le_of_ne high (notHigh odd)⟩

end Magnitude

end SolidScene
