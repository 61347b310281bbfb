import Mathlib.Data.Nat.Log
import SolidScene.Proofs.NearestMagnitudes

/-!
What the search for the shortest decimal finds. The rounding interval is convex,
so a grid has a point inside only if one of the two points next to the magnitude
is inside, and then the nearer of these is the nearest of all. The search stops
at the coarsest grid with a point inside. A decimal with fewer digits would leave
a power of ten inside, which is a point of a coarser grid; one with as many
digits lies on the same grid, or it lies below a power of ten that is nearer.
-/

namespace SolidScene

namespace Magnitude

theorem owns_between {magnitude : Magnitude} {low x high : ℚ} (ownedLow : magnitude.Owns low)
    (ownedHigh : magnitude.Owns high) (above : low ≤ x) (below : x ≤ high) :
    magnitude.Owns x := by
  unfold Owns at *
  split at ownedLow
  · next even =>
    rw [if_pos even] at ownedHigh ⊢
    exact ⟨ownedLow.1.trans above, below.trans ownedHigh.2⟩
  · next odd =>
    rw [if_neg odd] at ownedHigh ⊢
    exact ⟨ownedLow.1.trans_le above, below.trans_lt ownedHigh.2⟩

theorem closer_from_below {v x y : ℚ} (less : y ≤ x) (below : x ≤ v) : |v - x| ≤ |v - y| := by
  rw [abs_of_nonneg (by linarith), abs_of_nonneg (by linarith)]
  linarith

theorem closer_from_above {v x y : ℚ} (above : v ≤ x) (less : x ≤ y) : |v - x| ≤ |v - y| := by
  rw [abs_of_nonpos (by linarith), abs_of_nonpos (by linarith)]
  linarith

/-! The two grid points next to a magnitude. -/

theorem points_le_iff (magnitude : Magnitude) (place : Int) (points : ℚ) :
    points * 10 ^ place ≤ magnitude.value ↔
      points * magnitude.gridStep place ≤
        magnitude.significand * magnitude.gridScale place := by
  have value := magnitude.quarters_scaled place (4 * magnitude.significand)
  have scaled := magnitude.point_scaled place points
  rw [mul_div_cancel_left₀ _ (by norm_num)] at value
  rw [← mul_le_mul_iff_of_pos_right (magnitude.gridFactor_pos place), ← scaled,
    Magnitude.value, ← value]
  constructor <;> intro le <;> linarith

theorem lt_points_iff (magnitude : Magnitude) (place : Int) (points : ℚ) :
    magnitude.value < points * 10 ^ place ↔
      magnitude.significand * magnitude.gridScale place <
        points * magnitude.gridStep place := by
  rw [← not_le, points_le_iff, not_le]

def pointBelow (magnitude : Magnitude) (place : Int) : Nat :=
  magnitude.significand * magnitude.gridScale place / magnitude.gridStep place

theorem pointBelow_le (magnitude : Magnitude) (place : Int) :
    magnitude.pointBelow place * (10 : ℚ) ^ place ≤ magnitude.value := by
  rw [points_le_iff]
  exact_mod_cast Nat.div_mul_le_self _ _

theorem lt_pointBelow_succ (magnitude : Magnitude) (place : Int) :
    magnitude.value < ((magnitude.pointBelow place + 1 : Nat) : ℚ) * 10 ^ place := by
  have positive : 0 < magnitude.gridStep place := by
    unfold gridStep
    simp only [Nat.pow_eq]
    positivity
  rw [lt_points_iff]
  exact_mod_cast Nat.lt_mul_of_div_lt (Nat.lt_succ_self (magnitude.pointBelow place)) positive

theorem neighbour_owned {magnitude : Magnitude} {place : Int} {point : Nat}
    (owned : magnitude.Owns (point * 10 ^ place)) :
    (point ≤ magnitude.pointBelow place ∧
        magnitude.Owns (magnitude.pointBelow place * 10 ^ place)) ∨
      (magnitude.pointBelow place + 1 ≤ point ∧
        magnitude.Owns ((magnitude.pointBelow place + 1 : Nat) * 10 ^ place)) := by
  have unit : (0 : ℚ) < 10 ^ place := by positivity
  -- the magnitude itself is inside, so what lies between it and the point is
  rcases Nat.lt_or_ge (magnitude.pointBelow place) point with above | below
  · refine Or.inr ⟨above, owns_between magnitude.owns_value owned
      (magnitude.lt_pointBelow_succ place).le ?_⟩
    exact mul_le_mul_of_nonneg_right (by exact_mod_cast above) unit.le
  · refine Or.inl ⟨below, owns_between owned magnitude.owns_value ?_
      (magnitude.pointBelow_le place)⟩
    exact mul_le_mul_of_nonneg_right (by exact_mod_cast below) unit.le

theorem nearestPoint?_none {magnitude : Magnitude} {place : Int}
    (missing : magnitude.nearestPoint? place = none) :
    magnitude.admits place (magnitude.pointBelow place) = false ∧
      magnitude.admits place (magnitude.pointBelow place + 1) = false := by
  unfold nearestPoint? at missing
  dsimp only at missing
  split at missing
  case h_1 below above => cases missing
  case h_2 below above => cases missing
  case h_3 below above => cases missing
  case h_4 below above => exact ⟨below, above⟩

theorem nearestPoint?_some {magnitude : Magnitude} {place : Int} {point : Nat}
    (found : magnitude.nearestPoint? place = some point) :
    (point = magnitude.pointBelow place ∧
        (magnitude.admits place (magnitude.pointBelow place + 1) = true →
          magnitude.value < (magnitude.pointBelow place + 1 / 2) * 10 ^ place)) ∨
      (point = magnitude.pointBelow place + 1 ∧
        (magnitude.admits place (magnitude.pointBelow place) = true →
          (magnitude.pointBelow place + 1 / 2) * 10 ^ place ≤ magnitude.value)) := by
  have middle : 2 * (magnitude.significand * magnitude.gridScale place) <
      (2 * magnitude.pointBelow place + 1) * magnitude.gridStep place ↔
        magnitude.value < (magnitude.pointBelow place + 1 / 2) * 10 ^ place := by
    rw [lt_points_iff, ← Nat.cast_lt (α := ℚ)]
    push_cast
    constructor <;> intro less <;> linarith
  unfold nearestPoint? at found
  dsimp only at found
  rw [← pointBelow] at found
  split at found
  case h_1 below above =>
    cases found
    split
    · next nearer => exact Or.inl ⟨rfl, fun _ => middle.1 nearer⟩
    · next further => exact Or.inr ⟨rfl, fun _ => not_lt.1 (mt middle.2 further)⟩
  case h_2 below above =>
    cases found
    exact Or.inl ⟨rfl, fun inside => absurd (inside.symm.trans above) (by decide)⟩
  case h_3 below above =>
    cases found
    exact Or.inr ⟨rfl, fun inside => absurd (inside.symm.trans below) (by decide)⟩
  case h_4 => cases found

theorem not_owned_of_none {magnitude : Magnitude} {place : Int}
    (positive : 0 < magnitude.significand) (missing : magnitude.nearestPoint? place = none)
    (point : Nat) : ¬ magnitude.Owns (point * 10 ^ place) := by
  intro owned
  obtain ⟨below, above⟩ := nearestPoint?_none missing
  rcases neighbour_owned owned with ⟨_, inside⟩ | ⟨_, inside⟩
  · rw [(magnitude.admits_iff place _ positive).2 inside] at below
    cases below
  · rw [(magnitude.admits_iff place _ positive).2 inside] at above
    cases above

/-- Nothing inside the interval and on the grid is nearer than what the search takes. -/
theorem nearestPoint?_closest {magnitude : Magnitude} {place : Int} {point : Nat}
    (positive : 0 < magnitude.significand) (found : magnitude.nearestPoint? place = some point)
    {other : Nat} (owned : magnitude.Owns (other * 10 ^ place)) :
    |magnitude.value - point * 10 ^ place| ≤ |magnitude.value - other * 10 ^ place| := by
  have unit : (0 : ℚ) < 10 ^ place := by positivity
  have below := magnitude.pointBelow_le place
  have above := magnitude.lt_pointBelow_succ place
  have less : (magnitude.pointBelow place : ℚ) * 10 ^ place <
      (magnitude.pointBelow place + 1 : Nat) * 10 ^ place := below.trans_lt above
  have middle : 2 * ((magnitude.pointBelow place + 1 / 2) * (10 : ℚ) ^ place) =
      magnitude.pointBelow place * 10 ^ place +
        (magnitude.pointBelow place + 1 : Nat) * 10 ^ place := by
    push_cast
    ring
  -- the other point is no nearer than the neighbour on its side, and that neighbour
  -- is no nearer than what was taken
  rcases neighbour_owned owned with ⟨before, inside⟩ | ⟨after, inside⟩
  · have admitted := (magnitude.admits_iff place _ positive).2 inside
    have further : |magnitude.value - magnitude.pointBelow place * 10 ^ place| ≤
        |magnitude.value - other * 10 ^ place| :=
      closer_from_below (mul_le_mul_of_nonneg_right (by exact_mod_cast before) unit.le) below
    refine le_trans ?_ further
    rcases nearestPoint?_some found with ⟨rfl, _⟩ | ⟨rfl, nearer⟩
    · exact le_refl _
    · exact (upper_closer_iff less).2 (by linarith [nearer admitted])
  · have admitted := (magnitude.admits_iff place _ positive).2 inside
    have further : |magnitude.value - (magnitude.pointBelow place + 1 : Nat) * 10 ^ place| ≤
        |magnitude.value - other * 10 ^ place| :=
      closer_from_above above.le (mul_le_mul_of_nonneg_right (by exact_mod_cast after) unit.le)
    refine le_trans ?_ further
    rcases nearestPoint?_some found with ⟨rfl, nearer⟩ | ⟨rfl, _⟩
    · exact (lower_closer_iff less).2 (by linarith [nearer admitted])
    · exact le_refl _

/-- A decimal is nearest on its own grid, and no coarser grid up to a place has a
point inside the interval. -/
structure Coarsest (magnitude : Magnitude) (highest : Int) (decimal : Decimal) : Prop where
  closest : ∀ point : Nat, magnitude.Owns (point * 10 ^ decimal.exponent) →
    |magnitude.value - decimal.value| ≤ |magnitude.value - point * 10 ^ decimal.exponent|
  none_coarser : ∀ place, decimal.exponent < place → place ≤ highest → ∀ point : Nat,
    ¬ magnitude.Owns (point * 10 ^ place)

theorem searchGrids_coarsest {magnitude : Magnitude} (positive : 0 < magnitude.significand)
    (steps : Nat) :
    magnitude.Coarsest (min magnitude.exponent 0 + steps)
      (magnitude.searchGrids (min magnitude.exponent 0) steps) := by
  induction steps with
  | zero =>
    refine ⟨fun point _ => ?_, fun place above limit => ?_⟩
    · rw [searchGrids, finestPoint_value, sub_self, abs_zero]
      exact abs_nonneg _
    · rw [searchGrids] at above
      dsimp only at above
      omega
  | succ steps ih =>
    rw [searchGrids]
    split
    case h_1 point found =>
      refine ⟨fun other owned => nearestPoint?_closest positive found owned,
        fun place above limit => ?_⟩
      dsimp only at above
      omega
    case h_2 missing =>
      refine ⟨ih.closest, fun place above limit => ?_⟩
      rcases Int.lt_or_eq_of_le limit with lower | last
      · exact ih.none_coarser place above (by omega)
      · rw [last]
        exact not_owned_of_none positive missing

/-! Above the highest place searched, even the first grid point is too large. -/

theorem upperEnd_lt (magnitude : Magnitude) :
    magnitude.upperEnd < 2 ^ (magnitude.exponent + magnitude.significand.log2 + 1) := by
  have unit : (0 : ℚ) < 2 ^ magnitude.exponent := by positivity
  have bound : (magnitude.significand + 1 : ℚ) ≤ 2 ^ (magnitude.significand.log2 + 1) := by
    exact_mod_cast (Nat.lt_log2_self (n := magnitude.significand))
  calc magnitude.upperEnd < (magnitude.significand + 1) * 2 ^ magnitude.exponent := by
        unfold upperEnd
        apply mul_lt_mul_of_pos_right _ unit
        linarith
    _ ≤ 2 ^ (magnitude.significand.log2 + 1) * 2 ^ magnitude.exponent :=
        mul_le_mul_of_nonneg_right bound unit.le
    _ = 2 ^ (magnitude.exponent + magnitude.significand.log2 + 1) := by
        rw [← zpow_natCast, ← zpow_add₀ (by norm_num)]
        congr 1
        push_cast
        ring

theorem two_zpow_le_of_thirds {bits place : Int} (nonneg : 0 ≤ place)
    (above : bits ≤ 3 * place) : (2 : ℚ) ^ bits ≤ 10 ^ place := by
  obtain ⟨places, rfl⟩ := Int.eq_ofNat_of_zero_le nonneg
  calc (2 : ℚ) ^ bits ≤ 2 ^ (3 * (places : Int)) := zpow_le_zpow_right₀ (by norm_num) above
    _ = 8 ^ places := by
        rw [zpow_mul, zpow_natCast]
        norm_num
    _ ≤ 10 ^ places := pow_le_pow_left₀ (by norm_num) (by norm_num) _
    _ = 10 ^ (places : Int) := (zpow_natCast _ _).symm

theorem two_zpow_le_of_quarters {bits place : Int} (nonpos : place ≤ 0)
    (above : bits ≤ 4 * place) : (2 : ℚ) ^ bits ≤ 10 ^ place := by
  obtain ⟨places, same⟩ := Int.eq_ofNat_of_zero_le (Int.neg_nonneg.2 nonpos)
  obtain rfl : place = -(places : Int) := by omega
  calc (2 : ℚ) ^ bits ≤ 2 ^ (4 * -(places : Int)) := zpow_le_zpow_right₀ (by norm_num) above
    _ = (16 ^ places)⁻¹ := by
        rw [zpow_mul, zpow_neg, zpow_natCast]
        norm_num
    _ ≤ (10 ^ places)⁻¹ :=
        inv_anti₀ (by positivity) (pow_le_pow_left₀ (by norm_num) (by norm_num) _)
    _ = 10 ^ (-(places : Int)) := by rw [zpow_neg, zpow_natCast]

theorem upperEnd_lt_of_highest {magnitude : Magnitude} {place : Int}
    (above : magnitude.highestPlace < place) : magnitude.upperEnd < 10 ^ place := by
  refine magnitude.upperEnd_lt.trans_le ?_
  unfold highestPlace at above
  dsimp only at above
  generalize magnitude.exponent + magnitude.significand.log2 + 1 = bits at *
  split at above
  · exact two_zpow_le_of_thirds (by omega) (by omega)
  · rcases Int.le_total place 0 with nonpos | nonneg
    · exact two_zpow_le_of_quarters nonpos (by omega)
    · calc (2 : ℚ) ^ bits ≤ 2 ^ (0 : Int) := zpow_le_zpow_right₀ (by norm_num) (by omega)
        _ = 10 ^ (0 : Int) := by rw [zpow_zero, zpow_zero]
        _ ≤ 10 ^ place := zpow_le_zpow_right₀ (by norm_num) nonneg

theorem not_owned_of_highest {magnitude : Magnitude} (positive : 0 < magnitude.significand)
    {place : Int} (above : magnitude.highestPlace < place) (point : Nat) :
    ¬ magnitude.Owns (point * 10 ^ place) := by
  intro owned
  have unit : (0 : ℚ) < 10 ^ place := by positivity
  have some : (1 : ℚ) ≤ point := by
    have nonzero := pos_of_mul_pos_left (owned_pos owned positive) unit.le
    exact_mod_cast nonzero
  have large : (10 : ℚ) ^ place ≤ point * 10 ^ place := le_mul_of_one_le_left unit.le some
  exact absurd ((upperEnd_lt_of_highest above).trans_le large) (not_lt.2 (owns_bounds owned).2)

theorem shortest_none_coarser {magnitude : Magnitude} (positive : 0 < magnitude.significand)
    {place : Int} (above : magnitude.shortest.exponent < place) (point : Nat) :
    ¬ magnitude.Owns (point * 10 ^ place) := by
  rcases lt_or_ge magnitude.highestPlace place with high | inside
  · exact not_owned_of_highest positive high point
  · exact (searchGrids_coarsest positive _).none_coarser place above (by omega) point

theorem shortest_closest {magnitude : Magnitude} (positive : 0 < magnitude.significand)
    (point : Nat) (owned : magnitude.Owns (point * 10 ^ magnitude.shortest.exponent)) :
    |magnitude.value - magnitude.shortest.value| ≤
      |magnitude.value - point * 10 ^ magnitude.shortest.exponent| :=
  (searchGrids_coarsest positive _).closest point owned

/-! Fewer digits. -/

/-- Below a power of ten that the shortest decimal reaches, nothing is inside,
unless that decimal has a single digit. -/
theorem single_digit_of_below {magnitude : Magnitude} (positive : 0 < magnitude.significand)
    {lead : Nat} (reached : 10 ^ lead ≤ magnitude.shortest.digits) {x : ℚ}
    (owned : magnitude.Owns x)
    (below : x ≤ 10 ^ lead * 10 ^ magnitude.shortest.exponent) : lead = 0 := by
  have unit : (0 : ℚ) < 10 ^ magnitude.shortest.exponent := by positivity
  have power : (10 : ℚ) ^ lead * 10 ^ magnitude.shortest.exponent =
      (1 : Nat) * 10 ^ (magnitude.shortest.exponent + lead) := by
    rw [zpow_add₀ (by norm_num), zpow_natCast]
    push_cast
    ring
  have inside : magnitude.Owns (10 ^ lead * 10 ^ magnitude.shortest.exponent) := by
    refine owns_between owned (magnitude.shortest_owned positive) below ?_
    exact mul_le_mul_of_nonneg_right (by exact_mod_cast reached) unit.le
  rw [power] at inside
  by_contra several
  exact shortest_none_coarser positive (by omega) 1 inside

/-! One digit. A decimal on a finer grid stays below the power of ten that the
shortest one reaches, and a magnitude below that power is close to it. -/

theorem unit_bounds {twos tens low high : Nat} (below : low * Nat.pow 2 twos < Nat.pow 10 tens)
    (above : Nat.pow 10 tens < high * Nat.pow 2 twos) :
    low * (10 : ℚ) ^ (-(tens : Int)) < 2 ^ (-(twos : Int)) ∧
      (2 : ℚ) ^ (-(twos : Int)) < high * 10 ^ (-(tens : Int)) := by
  rw [Nat.pow_eq, Nat.pow_eq, ← Nat.cast_lt (α := ℚ)] at below above
  push_cast at below above
  rw [zpow_neg, zpow_neg, zpow_natCast, zpow_natCast, ← div_eq_mul_inv, ← div_eq_mul_inv,
    inv_eq_one_div, div_lt_div_iff₀ (by positivity) (by positivity),
    div_lt_div_iff₀ (by positivity) (by positivity), one_mul]
  exact ⟨below, above⟩

theorem least_unit_bounds :
    (494 : Nat) * (10 : ℚ) ^ (-326 : Int) < 2 ^ Number.leastExponent ∧
      (2 : ℚ) ^ Number.leastExponent < (495 : Nat) * 10 ^ (-326 : Int) :=
  unit_bounds (by decide +kernel) (by decide +kernel)

theorem ten_zpow_add (exponent : Int) (more : Nat) :
    (10 : ℚ) ^ (exponent + more) = 10 ^ more * 10 ^ exponent := by
  rw [zpow_add₀ (by norm_num), zpow_natCast, mul_comm]

theorem power_above_unit {unit : ℚ} {start place : Int} (low : 494 * 10 ^ start < unit)
    (high : unit < 495 * 10 ^ start) (above : unit < 10 ^ place)
    (below : (10 : ℚ) ^ (place - 1) < unit) : place = start + 3 := by
  have positive : (0 : ℚ) < 10 ^ start := by positivity
  have hundred := ten_zpow_add start 2
  have thousand := ten_zpow_add start 3
  have least : (10 : ℚ) ^ (start + (2 : Nat)) < 10 ^ place := by linarith
  have most : (10 : ℚ) ^ (place - 1) < 10 ^ (start + (3 : Nat)) := by linarith
  have least := (zpow_lt_zpow_iff_right₀ (by norm_num)).1 least
  have most := (zpow_lt_zpow_iff_right₀ (by norm_num)).1 most
  omega

theorem close_below_power {magnitude : Magnitude} {place : Int} (regular : magnitude.Regular)
    (positive : 0 < magnitude.significand) (owned : magnitude.Owns (10 ^ place))
    (below : magnitude.value < 10 ^ place) : 19 * (10 : ℚ) ^ place ≤ 20 * magnitude.value := by
  have reach := (owns_bounds owned).2
  have upperEnd := magnitude.upperEnd_eq
  have unit : (0 : ℚ) < 2 ^ magnitude.exponent := by positivity
  have ten : (10 : ℚ) ^ place = 10 * 10 ^ (place - 1) := by
    rw [← zpow_one_add₀ (by norm_num)]
    congr 1
    omega
  rcases le_or_gt ((2 : ℚ) ^ magnitude.exponent) (10 ^ (place - 1)) with fine | coarse
  · linarith
  · -- the magnitude is below ten of its units, so its unit is the least one
    have few : magnitude.significand < 10 := by
      have few : (magnitude.significand : ℚ) * 2 ^ magnitude.exponent <
          10 * 2 ^ magnitude.exponent := by
        rw [← Magnitude.value]
        linarith
      exact_mod_cast (mul_lt_mul_iff_of_pos_right unit).1 few
    have least : magnitude.exponent = Number.leastExponent := by
      have leading : 10 ≤ Number.leadingBit := by decide
      have bound := regular.least
      by_contra other
      have normal := regular.normal (by omega)
      omega
    obtain ⟨low, high⟩ := least_unit_bounds
    rw [← least] at low high
    generalize (-326 : Int) = start at low high
    push_cast at low high
    have one : (2 : ℚ) ^ magnitude.exponent ≤ magnitude.value := by
      unfold value
      exact le_mul_of_one_le_left unit.le (by exact_mod_cast positive)
    have thousand := ten_zpow_add start 3
    have place := power_above_unit low high (one.trans_lt below) coarse
    subst place
    push_cast at thousand
    -- one unit does not reach the power, and two units are close to it
    have two : 2 ≤ magnitude.significand := by
      by_contra single
      have single : magnitude.significand = 1 := by omega
      have value : magnitude.value = 2 ^ magnitude.exponent := by
        rw [Magnitude.value, single, Nat.cast_one, one_mul]
      linarith
    have twice : 2 * (2 : ℚ) ^ magnitude.exponent ≤ magnitude.value := by
      unfold value
      exact mul_le_mul_of_nonneg_right (by exact_mod_cast two) unit.le
    linarith

theorem single_digit_closer {magnitude : Magnitude} (regular : magnitude.Regular)
    (positive : 0 < magnitude.significand) {other : Decimal} (digit : other.digits < 10)
    (finer : other.exponent < magnitude.shortest.exponent) (owned : magnitude.Owns other.value) :
    |magnitude.value - magnitude.shortest.value| ≤ |magnitude.value - other.value| := by
  have shortestOwned := magnitude.shortest_owned positive
  have closest := shortest_closest positive 1
  generalize magnitude.shortest = shortest at *
  have unit : (0 : ℚ) < 10 ^ shortest.exponent := by positivity
  have reached : (10 : ℚ) ^ shortest.exponent ≤ shortest.value := by
    have some : (1 : ℚ) ≤ shortest.digits := by
      have nonzero := pos_of_mul_pos_left (owned_pos shortestOwned positive) unit.le
      exact_mod_cast nonzero
    exact le_mul_of_one_le_left unit.le some
  -- nine steps of a finer grid end before one step of the coarser one
  have nine : 10 * other.value ≤ 9 * 10 ^ shortest.exponent := by
    have tens : 10 * (10 : ℚ) ^ other.exponent ≤ 10 ^ shortest.exponent := by
      rw [← zpow_one_add₀ (by norm_num)]
      exact zpow_le_zpow_right₀ (by norm_num) (by omega)
    have digit : (other.digits : ℚ) ≤ 9 := by exact_mod_cast Nat.le_of_lt_succ digit
    calc 10 * other.value = other.digits * (10 * 10 ^ other.exponent) := by
          unfold Decimal.value
          ring
      _ ≤ 9 * 10 ^ shortest.exponent := mul_le_mul digit tens (by positivity) (by norm_num)
  have power : magnitude.Owns (10 ^ shortest.exponent) :=
    owns_between owned shortestOwned (by linarith) reached
  rw [Nat.cast_one, one_mul] at closest
  refine (closest power).trans ?_
  rcases le_or_gt ((10 : ℚ) ^ shortest.exponent) magnitude.value with above | below
  · exact closer_from_below (by linarith) above
  · have close := close_below_power regular positive power below
    rw [abs_of_nonpos (by linarith), abs_of_nonneg (by linarith)]
    linarith

theorem value_le_power {decimal : Decimal} {size : Nat} (short : decimal.digits < 10 ^ size) :
    decimal.value ≤ 10 ^ size * 10 ^ decimal.exponent := by
  have unit : (0 : ℚ) < 10 ^ decimal.exponent := by positivity
  exact mul_le_mul_of_nonneg_right (by exact_mod_cast short.le) unit.le

/-- No decimal with fewer digits is inside the interval, and none with as many is
nearer to the magnitude. -/
theorem shortest_best {magnitude : Magnitude} (regular : magnitude.Regular)
    (positive : 0 < magnitude.significand) :
    ∃ count : Nat, magnitude.shortest.digits < 10 ^ count ∧
      ∀ (other : Decimal) (size : Nat), other.digits < 10 ^ size → magnitude.Owns other.value →
        count ≤ size ∧ (size = count →
          |magnitude.value - magnitude.shortest.value| ≤ |magnitude.value - other.value|) := by
  have nonzero : magnitude.shortest.digits ≠ 0 := by
    intro zero
    have owned := owned_pos (magnitude.shortest_owned positive) positive
    rw [Decimal.value, zero, Nat.cast_zero, zero_mul] at owned
    exact lt_irrefl 0 owned
  refine ⟨Nat.log 10 magnitude.shortest.digits + 1,
    Nat.lt_pow_succ_log_self (by decide) _, fun other size short owned => ?_⟩
  have reached := Nat.pow_log_le_self 10 nonzero
  generalize Nat.log 10 magnitude.shortest.digits = lead at *
  have finer : other.exponent ≤ magnitude.shortest.exponent := by
    by_contra coarser
    exact shortest_none_coarser positive (not_le.1 coarser) other.digits owned
  have below := value_le_power short
  constructor
  · by_contra fewer
    have fits : other.value ≤ 10 ^ lead * 10 ^ magnitude.shortest.exponent :=
      below.trans (mul_le_mul (pow_le_pow_right₀ (by norm_num) (by omega))
        (zpow_le_zpow_right₀ (by norm_num) finer) (by positivity) (by positivity))
    -- one digit less than one digit leaves zero, which is not inside
    obtain rfl := single_digit_of_below positive reached owned fits
    obtain rfl : size = 0 := by omega
    have zero : other.value = 0 := by
      rw [Decimal.value, Nat.lt_one_iff.1 short, Nat.cast_zero, zero_mul]
    exact absurd (owned_pos owned positive) (by rw [zero]; exact lt_irrefl 0)
  · rintro rfl
    rcases Int.lt_or_eq_of_le finer with strict | level
    · have fits : other.value ≤ 10 ^ lead * 10 ^ magnitude.shortest.exponent := by
        refine below.trans ?_
        rw [pow_succ, mul_assoc, ← zpow_one_add₀ (by norm_num)]
        apply mul_le_mul_of_nonneg_left _ (by positivity)
        exact zpow_le_zpow_right₀ (by norm_num) (by omega)
      obtain rfl := single_digit_of_below positive reached owned fits
      exact single_digit_closer regular positive short strict owned
    · rw [Decimal.value, level] at owned
      have closest := shortest_closest positive other.digits owned
      rwa [← level, ← Decimal.value] at closest

end Magnitude

end SolidScene
