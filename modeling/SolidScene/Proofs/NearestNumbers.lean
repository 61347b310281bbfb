import SolidScene.Proofs.NearestMagnitudes

/-!
Rounding of fractions to numbers, against its meaning. The quotient is counted
in units of the last place that its size calls for, and the rounded count is the
significand of the nearest magnitude, carried into the exponent when it is full.
Magnitudes beyond the largest finite one become infinity. A finite number is
therefore the rounding of exactly the rationals to which its magnitude is
nearest.
-/

namespace SolidScene

/-! The rounded quotient lies within a half of the quotient; where the distance
is a half, it is even. -/

theorem roundQuotient_cases (num den : Nat) :
    roundQuotient num den = num / den ∨ roundQuotient num den = num / den + 1 := by
  unfold roundQuotient
  dsimp only
  split
  · exact Or.inl rfl
  · exact Or.inr rfl

theorem roundQuotient_near (num : Nat) {den : Nat} (positive : 0 < den) :
    2 * num ≤ 2 * (roundQuotient num den * den) + den ∧
      2 * (roundQuotient num den * den) ≤ 2 * num + den ∧
      (roundQuotient num den % 2 ≠ 0 →
        2 * num < 2 * (roundQuotient num den * den) + den ∧
          2 * (roundQuotient num den * den) < 2 * num + den) := by
  have whole : num / den * den + num % den = num := by
    rw [Nat.mul_comm]
    exact Nat.div_add_mod num den
  have rest := Nat.mod_lt num positive
  unfold roundQuotient
  dsimp only
  split
  · next near => omega
  · next far =>
    rw [Nat.add_mul, Nat.one_mul]
    omega

/-- A count within a half of a rational, and even where it is at a half. -/
structure Counts (count : Nat) (x : ℚ) : Prop where
  low : count - 1 / 2 ≤ x
  high : x ≤ count + 1 / 2
  odd : count % 2 ≠ 0 → count - 1 / 2 < x ∧ x < count + 1 / 2

theorem counts_roundQuotient (num : Nat) {den : Nat} (positive : 0 < den) :
    Counts (roundQuotient num den) (num / den) := by
  obtain ⟨high, low, odd⟩ := roundQuotient_near num positive
  have den' : (0 : ℚ) < den := by exact_mod_cast positive
  constructor
  · rw [le_div_iff₀ den']
    have low : (2 * (roundQuotient num den * den) : ℚ) ≤ 2 * num + den := by exact_mod_cast low
    linarith
  · rw [div_le_iff₀ den']
    have high : (2 * num : ℚ) ≤ 2 * (roundQuotient num den * den) + den := by exact_mod_cast high
    linarith
  · intro isOdd
    obtain ⟨high, low⟩ := odd isOdd
    have low : (2 * (roundQuotient num den * den) : ℚ) < 2 * num + den := by exact_mod_cast low
    have high : (2 * num : ℚ) < 2 * (roundQuotient num den * den) + den := by exact_mod_cast high
    rw [lt_div_iff₀ den', div_lt_iff₀ den']
    constructor <;> linarith

namespace Number

theorem inUnits_den_pos (num : Nat) {den : Nat} (positive : 0 < den) (exponent : Int) :
    0 < (inUnits num den exponent).2 := by
  unfold inUnits
  simp only [Nat.pow_eq]
  positivity

theorem inUnits_value (num : Nat) {den : Nat} (positive : 0 < den) (exponent : Int) :
    ((inUnits num den exponent).1 / (inUnits num den exponent).2 : ℚ) * 2 ^ exponent =
      num / den := by
  have unit := Magnitude.two_zpow_toNat exponent
  unfold inUnits
  simp only [Nat.pow_eq]
  push_cast
  rw [← unit]
  field_simp

theorem quotient_lt_iff (num : Nat) {den : Nat} (positive : 0 < den) (exponent : Int)
    (bound : Nat) :
    (inUnits num den exponent).1 / (inUnits num den exponent).2 < bound ↔
      (num / den : ℚ) < bound * 2 ^ exponent := by
  have unit : (0 : ℚ) < 2 ^ exponent := by positivity
  have counted := inUnits_den_pos num positive exponent
  have counted' : (0 : ℚ) < (inUnits num den exponent).2 := by exact_mod_cast counted
  rw [← inUnits_value num positive exponent, mul_lt_mul_iff_of_pos_right unit,
    div_lt_iff₀ counted', Nat.div_lt_iff_lt_mul counted]
  exact_mod_cast Iff.rfl

/-! The last place is chosen by the sizes of the two parts of the fraction. -/

theorem log2_bounds {n : Nat} (positive : 0 < n) :
    (2 : ℚ) ^ (n.log2 : Int) ≤ n ∧ (n : ℚ) < 2 ^ ((n.log2 : Int) + 1) := by
  constructor
  · rw [zpow_natCast]
    exact_mod_cast Nat.log2_self_le positive.ne'
  · rw [← Nat.cast_succ, zpow_natCast]
    exact_mod_cast Nat.lt_log2_self

theorem fraction_bounds {num den : Nat} (numPositive : 0 < num) (denPositive : 0 < den) :
    (2 : ℚ) ^ ((num.log2 : Int) - den.log2 - 1) < num / den ∧
      (num / den : ℚ) < 2 ^ ((num.log2 : Int) - den.log2 + 1) := by
  obtain ⟨numLow, numHigh⟩ := log2_bounds numPositive
  obtain ⟨denLow, denHigh⟩ := log2_bounds denPositive
  have den' : (0 : ℚ) < den := by exact_mod_cast denPositive
  constructor
  · rw [lt_div_iff₀ den']
    calc (2 : ℚ) ^ ((num.log2 : Int) - den.log2 - 1) * den
        < 2 ^ ((num.log2 : Int) - den.log2 - 1) * 2 ^ ((den.log2 : Int) + 1) :=
          mul_lt_mul_of_pos_left denHigh (by positivity)
      _ = 2 ^ (num.log2 : Int) := by
          rw [← zpow_add₀ (by norm_num)]
          congr 1
          omega
      _ ≤ num := numLow
  · rw [div_lt_iff₀ den']
    calc (num : ℚ) < 2 ^ ((num.log2 : Int) + 1) := numHigh
      _ = 2 ^ ((num.log2 : Int) - den.log2 + 1) * 2 ^ (den.log2 : Int) := by
          rw [← zpow_add₀ (by norm_num)]
          congr 1
          omega
      _ ≤ 2 ^ ((num.log2 : Int) - den.log2 + 1) * den :=
          mul_le_mul_of_nonneg_left denLow (by positivity)

theorem leadingBit_mul (exponent : Int) :
    (leadingBit : ℚ) * 2 ^ exponent = 2 ^ (exponent + 52) := by
  have leading : (leadingBit : ℚ) = 2 ^ (52 : Int) := by
    unfold leadingBit
    rw [Nat.pow_eq]
    norm_num
  rw [leading, ← zpow_add₀ (by norm_num), add_comm]

theorem leastExponent_le_lastPlace (num den : Nat) : leastExponent ≤ lastPlace num den := by
  unfold lastPlace
  dsimp only
  split <;> omega

theorem lastPlace_bounds {num den : Nat} (numPositive : 0 < num) (denPositive : 0 < den) :
    (num / den : ℚ) < (2 * leadingBit : Nat) * 2 ^ lastPlace num den ∧
      (leastExponent < lastPlace num den →
        leadingBit * 2 ^ lastPlace num den ≤ (num / den : ℚ)) := by
  obtain ⟨low, high⟩ := fraction_bounds numPositive denPositive
  unfold lastPlace
  dsimp only
  generalize (num.log2 : Int) - den.log2 = size at low high ⊢
  have sized : size - 53 ≤ max (size - 53) leastExponent := le_max_left _ _
  split
  · next fits =>
    refine ⟨(quotient_lt_iff num denPositive _ _).1 fits, fun above => ?_⟩
    -- above the least exponent the place comes from the size alone
    have place : max (size - 53) leastExponent = size - 53 := by omega
    rw [place, leadingBit_mul]
    calc (2 : ℚ) ^ (size - 53 + 52) = 2 ^ (size - 1) := by
          congr 1
          omega
      _ ≤ num / den := low.le
  · next full =>
    rw [quotient_lt_iff num denPositive, not_lt] at full
    constructor
    · calc (num / den : ℚ) < 2 ^ (size + 1) := high
        _ ≤ 2 ^ (max (size - 53) leastExponent + 1 + 52 + 1) :=
            zpow_le_zpow_right₀ (by norm_num) (by omega)
        _ = (2 * leadingBit : Nat) * 2 ^ (max (size - 53) leastExponent + 1) := by
            rw [Magnitude.two_zpow_succ, ← leadingBit_mul]
            push_cast
            ring
    · intro _
      calc (leadingBit : ℚ) * 2 ^ (max (size - 53) leastExponent + 1)
          = (2 * leadingBit : Nat) * 2 ^ max (size - 53) leastExponent := by
            rw [Magnitude.two_zpow_succ]
            push_cast
            ring
        _ ≤ num / den := full

end Number

namespace Magnitude

/-- Place of a regular magnitude in the order of all of them. It is also the bit
pattern of the positive number with that magnitude, where there is one. -/
def code (magnitude : Magnitude) : Nat :=
  (magnitude.exponent - Number.leastExponent).toNat * Number.leadingBit + magnitude.significand

theorem eq_of_code {left right : Magnitude} (leftRegular : left.Regular)
    (rightRegular : right.Regular) (same : left.code = right.code) : left = right := by
  obtain ⟨leftBounded, leftLeast, leftNormal⟩ := leftRegular
  obtain ⟨rightBounded, rightLeast, rightNormal⟩ := rightRegular
  obtain ⟨leftSignificand, leftExponent⟩ := left
  obtain ⟨rightSignificand, rightExponent⟩ := right
  unfold code at same
  unfold Number.leadingBit at *
  simp only [Nat.pow_eq] at *
  rw [Magnitude.mk.injEq]
  omega

theorem owns_of_counts {place : Int} {count : Nat} {x : ℚ}
    (normal : Number.leastExponent < place → (Number.leadingBit : ℚ) ≤ x)
    (counts : Counts count x) : Owns ⟨count, place⟩ (x * 2 ^ place) := by
  have unit : (0 : ℚ) < 2 ^ place := by positivity
  obtain ⟨low, high, odd⟩ := counts
  unfold Owns lowerEnd upperEnd lowerGap
  dsimp only
  rw [mul_le_mul_iff_of_pos_right unit, mul_le_mul_iff_of_pos_right unit,
    mul_lt_mul_iff_of_pos_right unit, mul_lt_mul_iff_of_pos_right unit]
  -- below the leading bit the interval is half as wide, but nothing is counted there
  by_cases lead : count = Number.leadingBit ∧ Number.leastExponent < place
  · have start := normal lead.2
    have even : count % 2 = 0 := by
      rw [lead.1]
      decide
    rw [if_pos lead, if_pos even]
    rw [← lead.1] at start
    push_cast
    constructor <;> linarith
  · rw [if_neg lead]
    push_cast
    split
    · constructor <;> linarith
    · next isOdd =>
      obtain ⟨low, high⟩ := odd isOdd
      constructor <;> linarith

theorem owns_carried {place : Int} {x : ℚ} (least : Number.leastExponent ≤ place)
    (counts : Counts (2 * Number.leadingBit) x) :
    Owns ⟨Number.leadingBit, place + 1⟩ (x * 2 ^ place) := by
  have unit : (0 : ℚ) < 2 ^ place := by positivity
  have even : Number.leadingBit % 2 = 0 := by decide
  obtain ⟨low, high, -⟩ := counts
  unfold Owns lowerEnd upperEnd lowerGap
  dsimp only
  rw [if_pos even, if_pos ⟨rfl, by omega⟩, two_zpow_succ, ← mul_assoc, ← mul_assoc,
    mul_le_mul_iff_of_pos_right unit, mul_le_mul_iff_of_pos_right unit]
  push_cast at low high ⊢
  constructor <;> linarith

theorem exists_owner {place : Int} {count : Nat} {x : ℚ} (least : Number.leastExponent ≤ place)
    (bounded : count ≤ 2 * Number.leadingBit)
    (normal : Number.leastExponent < place →
      Number.leadingBit ≤ count ∧ (Number.leadingBit : ℚ) ≤ x)
    (counts : Counts count x) :
    ∃ magnitude : Magnitude, magnitude.Regular ∧ magnitude.Owns (x * 2 ^ place) ∧
      magnitude.code = (place - Number.leastExponent).toNat * Number.leadingBit + count := by
  have leading : 0 < Number.leadingBit := by decide
  rcases Nat.lt_or_eq_of_le bounded with fits | full
  · exact ⟨⟨count, place⟩, ⟨fits, least, fun above => (normal above).1⟩,
      owns_of_counts (fun above => (normal above).2) counts, rfl⟩
  -- a full count is the leading bit of the next exponent
  · subst full
    refine ⟨⟨Number.leadingBit, place + 1⟩,
      ⟨by dsimp only; omega, by dsimp only; omega, fun _ => le_refl _⟩,
      owns_carried least counts, ?_⟩
    unfold code
    dsimp only
    rw [show (place + 1 - Number.leastExponent).toNat =
      (place - Number.leastExponent).toNat + 1 by omega]
    ring

end Magnitude

namespace Number

theorem magnitude_code (number : Number) :
    number.magnitude.code = number.exponentField * leadingBit + number.fractionField := by
  unfold magnitude Magnitude.code
  split
  · next subnormal => rw [subnormal, sub_self, Int.toNat_zero]
  · next normal =>
    dsimp only
    obtain ⟨field, same⟩ := Nat.exists_eq_succ_of_ne_zero normal
    rw [same, show (leastExponent + (field.succ : Nat) - 1 - leastExponent).toNat = field by omega,
      Nat.succ_mul]
    omega

theorem nearestBits_owner (num : Nat) {den : Nat} (positive : 0 < den) :
    ∃ magnitude : Magnitude, magnitude.Regular ∧ magnitude.Owns (num / den) ∧
      nearestBits num den = min magnitude.code infinityBits := by
  unfold nearestBits
  split
  · next zero =>
    have value : Magnitude.value ⟨0, leastExponent⟩ = ((num : ℚ) / den) := by
      rw [zero, Magnitude.value, Nat.cast_zero, zero_mul, zero_div]
    refine ⟨⟨0, leastExponent⟩, ⟨by decide, le_refl _, fun above => (lt_irrefl _ above).elim⟩,
      ?_, by decide⟩
    rw [← value]
    exact Magnitude.owns_value _
  · next nonzero =>
    dsimp only
    have numPositive := Nat.pos_of_ne_zero nonzero
    obtain ⟨bounded, normal⟩ := lastPlace_bounds numPositive positive
    have least := leastExponent_le_lastPlace num den
    generalize lastPlace num den = place at *
    have unit : (0 : ℚ) < 2 ^ place := by positivity
    have value := inUnits_value num positive place
    have below := (quotient_lt_iff num positive place _).2 bounded
    have nearby := roundQuotient_cases (inUnits num den place).1 (inUnits num den place).2
    have counts := counts_roundQuotient (inUnits num den place).1
      (inUnits_den_pos num positive place)
    have leading : leastExponent < place →
        leadingBit ≤ roundQuotient (inUnits num den place).1 (inUnits num den place).2 := by
      intro above
      have full : leadingBit ≤ (inUnits num den place).1 / (inUnits num den place).2 := by
        rw [← not_lt, quotient_lt_iff num positive, not_lt]
        exact normal above
      omega
    rw [← value] at normal ⊢
    obtain ⟨magnitude, regular, owned, code⟩ := Magnitude.exists_owner least (by omega)
      (fun above => ⟨leading above, (mul_le_mul_iff_of_pos_right unit).1 (normal above)⟩) counts
    exact ⟨magnitude, regular, owned, by rw [code]⟩

theorem nearestBits_le (num den : Nat) : nearestBits num den ≤ infinityBits := by
  unfold nearestBits
  split
  · exact Nat.zero_le _
  · exact Nat.min_le_right _ _

theorem nearest_bits (negative : Bool) (num den : Nat) :
    (nearest negative num den).bits.toNat =
      (if negative then signBit else 0) + nearestBits num den := by
  have bounded := nearestBits_le num den
  have finite : signBit + infinityBits < 2 ^ 64 := by decide
  unfold nearest
  rw [UInt64.toNat_ofNat_of_lt']
  split <;> rw [UInt64.size] <;> omega

theorem nearest_isNegative (negative : Bool) (num den : Nat) :
    (nearest negative num den).isNegative = negative := by
  have bounded := nearestBits_le num den
  have positive : infinityBits < signBit := by decide
  rw [isNegative, nearest_bits]
  cases negative with
  | true => exact decide_eq_true (Nat.le_add_right _ _)
  | false => exact decide_eq_false (by rw [if_neg Bool.false_ne_true]; omega)

theorem nearest_code (negative : Bool) (num den : Nat) :
    (nearest negative num den).magnitude.code = nearestBits num den := by
  have bits := bits_eq_fields (nearest negative num den)
  rw [nearest_bits, nearest_isNegative, Nat.add_assoc, Nat.add_left_cancel_iff] at bits
  rw [magnitude_code, bits]

theorem code_lt_infinity {number : Number} (proper : number.isNaN = false)
    (finite : number.isInfinite = false) : number.magnitude.code < infinityBits := by
  have fraction := number.fractionField_lt
  have exponent : number.exponentField ≠ 2047 := by
    intro special
    rw [isNaN, special] at proper
    rw [isInfinite, special] at finite
    cases zero : number.fractionField == 0 with
    | true => simp [zero] at finite
    | false => simp [bne, zero] at proper
  have field := number.exponentField_lt
  have fits : number.exponentField ≤ 2046 := by omega
  rw [magnitude_code, infinityBits]
  calc number.exponentField * leadingBit + number.fractionField
      < number.exponentField * leadingBit + leadingBit := Nat.add_lt_add_left fraction _
    _ = (number.exponentField + 1) * leadingBit := by ring
    _ ≤ 2047 * leadingBit := Nat.mul_le_mul_right _ (by omega)

/-- A finite number is what a fraction rounds to when it has the sign and its
magnitude owns the fraction. -/
theorem nearest_eq_iff_owns {number : Number} (proper : number.isNaN = false)
    (finite : number.isInfinite = false) (negative : Bool) (num : Nat) {den : Nat}
    (positive : 0 < den) :
    nearest negative num den = number ↔
      number.isNegative = negative ∧ number.magnitude.Owns (num / den) := by
  obtain ⟨magnitude, regular, owned, bits⟩ := nearestBits_owner num positive
  have bounded := code_lt_infinity proper finite
  constructor
  · rintro rfl
    refine ⟨nearest_isNegative negative num den, ?_⟩
    -- the code is below that of infinity, so it was not cut off
    rw [nearest_code, bits] at bounded
    have code := (nearest_code negative num den).trans bits
    rw [Nat.min_eq_left (by omega)] at code
    rwa [Magnitude.eq_of_code (magnitude_regular _) regular code]
  · rintro ⟨sign, owns⟩
    obtain rfl := Magnitude.owner_unique regular number.magnitude_regular owned owns
    refine eq_of_sign_and_magnitude ((nearest_isNegative negative num den).trans sign.symm) ?_
    apply Magnitude.eq_of_code (magnitude_regular _) number.magnitude_regular
    rw [nearest_code, bits, Nat.min_eq_left bounded.le]

/-- A nonnegative rational with a sign of its own, rounded to the nearest number,
of two equally near ones to the one with the even significand. -/
def rounded (negative : Bool) (x : ℚ) : Number :=
  nearest negative x.num.natAbs x.den

theorem rounded_eq_iff {number : Number} (proper : number.isNaN = false)
    (finite : number.isInfinite = false) (negative : Bool) {x : ℚ} (nonneg : 0 ≤ x) :
    rounded negative x = number ↔
      number.isNegative = negative ∧ number.magnitude.Nearest x := by
  have value : (x.num.natAbs / x.den : ℚ) = x := by
    rw [← Int.cast_natCast, Int.natAbs_of_nonneg (Rat.num_nonneg.2 nonneg), Rat.num_div_den]
  rw [rounded, nearest_eq_iff_owns proper finite negative _ x.den_pos, value,
    Magnitude.nearest_iff_owns number.magnitude_regular nonneg]

end Number

end SolidScene
