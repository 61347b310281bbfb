import SolidScene.Proofs.NearestNumbers
import SolidScene.Proofs.NumberText
import SolidScene.Proofs.ShortestSearch
import SolidScene.Value

/-!
The text of a number reads back and is the shortest. What is written for a finite
number is a sign and a positional decimal with no zero to spare. The decimal
rounds to the number again, no decimal with fewer digits does, and none with as
many that does is nearer to the number.
-/

namespace SolidScene

namespace Decimal

/-- Digits before and after the point, with no zero to spare on either side. -/
structure Positional (whole fraction : List Char) : Prop where
  whole_isDigit : ∀ char ∈ whole, char.isDigit = true
  fraction_isDigit : ∀ char ∈ fraction, char.isDigit = true
  whole_ne_nil : whole ≠ []
  leading : whole.head? = some '0' → whole = ['0']
  trailing : fraction.getLast? ≠ some '0'

def pointed (whole fraction : List Char) : List Char :=
  if fraction = [] then whole else whole ++ '.' :: fraction

theorem leading_digit {digits : Nat} (positive : 0 < digits) :
    (Nat.toDigits 10 digits).head? ≠ some '0' := by
  induction digits using Nat.strongRecOn with
  | ind digits ih =>
    rcases Nat.lt_or_ge digits 10 with single | several
    · rw [Nat.toDigits_of_lt_base single, List.head?_cons, Ne, Option.some.injEq,
        Nat.digitChar_eq_zero]
      exact positive.ne'
    · rw [Nat.toDigits_of_base_le (by decide) several,
        List.head?_append_of_ne_nil _ Nat.toDigits_ne_nil]
      exact ih (digits / 10) (by omega) (by omega)

theorem trailing_digit {digits : Nat} (trimmed : digits % 10 ≠ 0) :
    (Nat.toDigits 10 digits).getLast? ≠ some '0' := by
  rcases Nat.lt_or_ge digits 10 with single | several
  · rw [Nat.toDigits_of_lt_base single, List.getLast?_singleton, Ne, Option.some.injEq,
      Nat.digitChar_eq_zero]
    omega
  · rw [Nat.toDigits_of_base_le (by decide) several, List.getLast?_concat, Ne,
      Option.some.injEq, Nat.digitChar_eq_zero]
    exact trimmed

theorem padded_positional {digits : Nat} (places : Nat) (trimmed : digits % 10 ≠ 0) :
    let written := Nat.toDigits 10 digits
    let padded := List.replicate (places + 1 - written.length) '0' ++ written
    Positional (padded.take (padded.length - places)) (padded.drop (padded.length - places)) := by
  dsimp only
  have leading := leading_digit (show 0 < digits by omega)
  have trailing := trailing_digit trimmed
  have nonempty : Nat.toDigits 10 digits ≠ [] := Nat.toDigits_ne_nil
  have isDigit := padded_isDigit (places + 1 - (Nat.toDigits 10 digits).length) digits
  generalize Nat.toDigits 10 digits = written at *
  have size : 0 < written.length := List.length_pos_iff.2 nonempty
  -- either the digits reach beyond the point, or the part before it is a single zero
  rcases Nat.lt_or_ge places written.length with long | short
  · have full : places + 1 - written.length = 0 := by omega
    rw [full, List.replicate_zero, List.nil_append] at isDigit ⊢
    refine ⟨fun char member => isDigit char (List.mem_of_mem_take member),
      fun char member => isDigit char (List.mem_of_mem_drop member), ?_, ?_, ?_⟩
    · intro empty
      rcases List.take_eq_nil_iff.1 empty with none | empty
      · omega
      · exact nonempty empty
    · intro zero
      rw [List.head?_take, if_neg (by omega)] at zero
      exact absurd zero leading
    · rw [List.getLast?_drop]
      split
      · exact (Option.some_ne_none _).symm
      · exact trailing
  · have start : places + 1 - written.length = places - written.length + 1 := by omega
    rw [start, List.replicate_succ, List.cons_append] at isDigit ⊢
    have one : ('0' :: (List.replicate (places - written.length) '0' ++ written)).length - places =
        1 := by
      rw [List.length_cons, List.length_append, List.length_replicate]
      omega
    rw [one]
    refine ⟨fun char member => isDigit char (List.mem_of_mem_take member),
      fun char member => isDigit char (List.mem_of_mem_drop member), List.cons_ne_nil _ _,
      fun _ => rfl, ?_⟩
    rw [List.drop_one, List.tail_cons, List.getLast?_append_of_ne_nil _ nonempty]
    exact trailing

theorem extended_positional {digits : Nat} (zeros : Nat) (positive : 0 < digits) :
    Positional (Nat.toDigits 10 digits ++ List.replicate zeros '0') [] := by
  have nonempty : Nat.toDigits 10 digits ≠ [] := Nat.toDigits_ne_nil
  refine ⟨fun char member => ?_, List.forall_mem_nil _,
    List.append_ne_nil_of_left_ne_nil nonempty _, fun zero => ?_, (Option.some_ne_none _).symm⟩
  · rcases List.mem_append.1 member with digit | zero
    · exact toDigits_isDigit digits char digit
    · rw [List.eq_of_mem_replicate zero]
      rfl
  · rw [List.head?_append_of_ne_nil _ nonempty] at zero
    exact absurd zero (leading_digit positive)

theorem text_positional (decimal : Decimal) (trimmed : decimal.digits % 10 ≠ 0) :
    ∃ whole fraction, Positional whole fraction ∧ decimal.text.toList = pointed whole fraction := by
  obtain ⟨digits, exponent⟩ := decimal
  dsimp only at trimmed
  unfold text
  dsimp only
  split
  · refine ⟨_, [], extended_positional exponent.toNat (by omega : 0 < digits), ?_⟩
    rw [String.toList_ofList, pointed, if_pos rfl]
  · next broken =>
    refine ⟨_, _, padded_positional (-exponent).toNat trimmed, ?_⟩
    rw [String.toList_ofList, pointed, if_neg]
    intro empty
    have long := List.drop_eq_nil_iff.1 empty
    rw [List.length_append, List.length_replicate] at long
    omega

/-- Rationals with a decimal of at most so many significant digits. -/
def HasDigits (count : Nat) (x : ℚ) : Prop :=
  ∃ decimal : Decimal, decimal.digits < 10 ^ count ∧ decimal.value = x

theorem HasDigits.nonneg {count : Nat} {x : ℚ} (short : HasDigits count x) : 0 ≤ x := by
  obtain ⟨decimal, _, rfl⟩ := short
  unfold value
  positivity

end Decimal

open Decimal

namespace Magnitude

theorem shortest_trimmed {magnitude : Magnitude} (positive : 0 < magnitude.significand) :
    magnitude.shortest.digits % 10 ≠ 0 := by
  intro zero
  -- without its last zero the decimal would be a point of a coarser grid
  have owned := magnitude.shortest_owned positive
  have digits : magnitude.shortest.digits = magnitude.shortest.digits / 10 * 10 := by omega
  have digits : (magnitude.shortest.digits : ℚ) = (magnitude.shortest.digits / 10 : Nat) * 10 := by
    exact_mod_cast digits
  rw [Decimal.value, digits, mul_assoc, ← zpow_one_add₀ (by norm_num)] at owned
  exact shortest_none_coarser positive (by omega) _ owned

end Magnitude

namespace Number

theorem magnitudeText_positional {number : Number} (finite : number.isInfinite = false) :
    ∃ whole fraction, Positional whole fraction ∧
      number.magnitudeText.toList = pointed whole fraction := by
  unfold magnitudeText
  rw [finite, if_neg Bool.false_ne_true]
  cases zero : number.isZero with
  | true =>
    rw [if_pos rfl]
    refine ⟨['0'], [], ⟨List.all_eq_true.1 (by decide), List.forall_mem_nil _,
      List.cons_ne_nil _ _, fun _ => rfl, (Option.some_ne_none _).symm⟩, by decide⟩
  | false =>
    rw [if_neg Bool.false_ne_true]
    exact text_positional _ (Magnitude.shortest_trimmed (significand_pos zero))

theorem magnitudeText_best {number : Number} (finite : number.isInfinite = false) :
    number.magnitude.Owns (Decimal.read number.magnitudeText.toList) ∧
      ∃ count, HasDigits count (Decimal.read number.magnitudeText.toList) ∧
        ∀ other size, HasDigits size other → number.magnitude.Owns other →
          count ≤ size ∧ (size = count →
            |number.magnitude.value - Decimal.read number.magnitudeText.toList| ≤
              |number.magnitude.value - other|) := by
  -- zero has no significant digits and is met exactly
  cases zero : number.isZero with
  | true =>
    have value : number.magnitude.value = 0 := by
      rw [magnitude_of_isZero zero, Magnitude.value, Nat.cast_zero, zero_mul]
    have text := (number.magnitudeText_read finite).2
    rw [zero, if_pos rfl] at text
    rw [text]
    refine ⟨by rw [← value]; exact number.magnitude.owns_value, 0,
      ⟨⟨0, 0⟩, by decide, by rw [Decimal.value, Nat.cast_zero, zero_mul]⟩, ?_⟩
    intro other size _ _
    refine ⟨Nat.zero_le _, fun _ => ?_⟩
    rw [value, sub_self, abs_zero]
    exact abs_nonneg _
  | false =>
    have positive := significand_pos zero
    have text : Decimal.read number.magnitudeText.toList = number.magnitude.shortest.value := by
      rw [magnitudeText, finite, zero, if_neg Bool.false_ne_true, if_neg Bool.false_ne_true,
        Decimal.read_text]
    obtain ⟨count, short, best⟩ := Magnitude.shortest_best number.magnitude_regular positive
    rw [text]
    refine ⟨number.magnitude.shortest_owned positive, count, ⟨_, short, rfl⟩, ?_⟩
    rintro _ size ⟨other, fits, rfl⟩ owned
    exact best other size fits owned

/-- A nonnegative rational is the shortest decimal for a number and its sign. -/
structure Shortest (number : Number) (x : ℚ) : Prop where
  nearest : number.magnitude.Nearest x
  rounds : rounded number.isNegative x = number
  best : ∃ count, HasDigits count x ∧
    ∀ negative other size, HasDigits size other → rounded negative other = number →
      count ≤ size ∧ (size = count →
        |number.magnitude.value - x| ≤ |number.magnitude.value - other|)

theorem magnitudeText_shortest {number : Number} (proper : number.isNaN = false)
    (finite : number.isInfinite = false) :
    number.Shortest (Decimal.read number.magnitudeText.toList) := by
  obtain ⟨owned, count, short, best⟩ := magnitudeText_best finite
  have nearest := Magnitude.nearest_of_owns number.magnitude_regular owned
  refine ⟨nearest, (rounded_eq_iff proper finite _ short.nonneg).2 ⟨rfl, nearest⟩,
    count, short, fun negative other size fits rounds => ?_⟩
  have nearestOther := ((rounded_eq_iff proper finite _ fits.nonneg).1 rounds).2
  exact best other size fits
    ((Magnitude.nearest_iff_owns number.magnitude_regular fits.nonneg).1 nearestOther)

/-- What a text reads as: a sign, and a positional decimal that is rounded. -/
def read (chars : List Char) : Number :=
  if chars.head? = some '-' then rounded true (Decimal.read chars.tail)
  else rounded false (Decimal.read chars)

theorem read_signed (negative : Bool) {chars : List Char} (unsigned : chars.head? ≠ some '-') :
    read ((if negative then ['-'] else []) ++ chars) = rounded negative (Decimal.read chars) := by
  unfold read
  cases negative with
  | true => rfl
  | false => exact if_neg unsigned

end Number

theorem Decimal.Positional.unsigned {whole fraction : List Char}
    (positional : Positional whole fraction) : (pointed whole fraction).head? ≠ some '-' := by
  have head : (pointed whole fraction).head? = whole.head? := by
    unfold pointed
    split
    · rfl
    · exact List.head?_append_of_ne_nil _ positional.whole_ne_nil
  rw [head]
  intro sign
  exact absurd (positional.whole_isDigit '-' (List.mem_of_head? sign)) (by decide)

namespace Value

/-- The text of every number. One that is neither a NaN nor infinite is written
as the shortest positional decimal, and as the nearest one of that length, with
a sign exactly when the number has one; it reads back to the same bits. -/
theorem number_text_shortest (number : Number) :
    if number.isNaN then (Value.number number).write = "NaN"
    else if number.isInfinite then
      (Value.number number).write = if number.isNegative then "-inf" else "inf"
    else
      Number.read (Value.number number).write.toList = number ∧
        ∃ whole fraction, Positional whole fraction ∧
          (Value.number number).write.toList =
            (if number.isNegative then ['-'] else []) ++ pointed whole fraction ∧
          number.Shortest (Decimal.read (pointed whole fraction)) := by
  rw [write]
  cases proper : number.isNaN with
  | true => exact Number.text_of_isNaN proper
  | false =>
    rw [if_neg Bool.false_ne_true]
    cases finite : number.isInfinite with
    | true =>
      rw [if_pos rfl, Number.text, proper, if_neg Bool.false_ne_true, Number.magnitudeText,
        if_pos finite]
      rfl
    | false =>
      obtain ⟨whole, fraction, positional, text⟩ := Number.magnitudeText_positional finite
      have shortest := Number.magnitudeText_shortest proper finite
      rw [if_neg Bool.false_ne_true, number.text_toList proper, text,
        Number.read_signed _ positional.unsigned]
      rw [text] at shortest
      exact ⟨shortest.rounds, whole, fraction, positional, rfl, shortest⟩

example : Number.rounded false (9 * 10 ^ (-324 : Int)) = ⟨2⟩ ∧
    (Number.magnitude ⟨2⟩).shortest = ⟨1, -323⟩ := by
  decide +kernel

end Value

end SolidScene
