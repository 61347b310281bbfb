import Mathlib.Data.List.TakeWhile
import SolidScene.Proofs.RoundingIntervals

/-!
What the text of a number tells. Reading a positional decimal as a rational
undoes writing it, and the decimal written for a finite number rounds to that
number alone. The text therefore tells any two numbers apart, the two zeros
included, except that every NaN has the same text.
-/

namespace SolidScene

namespace Decimal

/-- The rational that positional digits stand for: all digits as one integer,
divided by ten for every digit after the point. -/
def read (chars : List Char) : ℚ :=
  (Nat.ofDigitChars 10 (chars.filter (· != '.')) 0 : ℚ) /
    10 ^ (chars.dropWhile (· != '.')).tail.length

theorem toDigits_isDigit (digits : Nat) : ∀ char ∈ Nat.toDigits 10 digits, char.isDigit = true :=
  fun _ member => Nat.isDigit_of_mem_toDigits (by decide) (by decide) member

theorem padded_isDigit (zeros digits : Nat) :
    ∀ char ∈ List.replicate zeros '0' ++ Nat.toDigits 10 digits, char.isDigit = true := by
  intro char member
  rcases List.mem_append.1 member with zero | digit
  · rw [List.eq_of_mem_replicate zero]
    rfl
  · exact toDigits_isDigit digits char digit

theorem not_point_of_isDigit {char : Char} (digit : char.isDigit = true) :
    (char != '.') = true := by
  rw [bne_iff_ne]
  rintro rfl
  cases digit

theorem read_whole {chars : List Char} (digits : ∀ char ∈ chars, char.isDigit = true) :
    read chars = Nat.ofDigitChars 10 chars 0 := by
  have plain : ∀ char ∈ chars, (char != '.') = true := fun char member =>
    not_point_of_isDigit (digits char member)
  rw [read, List.filter_eq_self.2 plain, List.dropWhile_eq_nil_iff.2 plain]
  simp

theorem read_point {whole fraction : List Char}
    (wholeDigits : ∀ char ∈ whole, char.isDigit = true)
    (fractionDigits : ∀ char ∈ fraction, char.isDigit = true) :
    read (whole ++ '.' :: fraction) =
      Nat.ofDigitChars 10 (whole ++ fraction) 0 / 10 ^ fraction.length := by
  have wholePlain : ∀ char ∈ whole, (char != '.') = true := fun char member =>
    not_point_of_isDigit (wholeDigits char member)
  have fractionPlain : ∀ char ∈ fraction, (char != '.') = true := fun char member =>
    not_point_of_isDigit (fractionDigits char member)
  have kept : (whole ++ '.' :: fraction).filter (· != '.') = whole ++ fraction := by
    rw [List.filter_append, List.filter_cons_of_neg (by decide), List.filter_eq_self.2 wholePlain,
      List.filter_eq_self.2 fractionPlain]
  have after : (whole ++ '.' :: fraction).dropWhile (· != '.') = '.' :: fraction := by
    rw [List.dropWhile_append_of_pos wholePlain, List.dropWhile_cons_of_neg (by decide)]
  rw [read, kept, after, List.tail_cons]

theorem read_text (decimal : Decimal) : read decimal.text.toList = decimal.value := by
  obtain ⟨digits, exponent⟩ := decimal
  unfold text value
  dsimp only
  split
  · next whole =>
    obtain ⟨places, rfl⟩ := Int.eq_ofNat_of_zero_le whole
    have allDigits : ∀ char ∈ Nat.toDigits 10 digits ++ List.replicate places '0',
        char.isDigit = true := by
      intro char member
      rcases List.mem_append.1 member with digit | zero
      · exact toDigits_isDigit digits char digit
      · rw [List.eq_of_mem_replicate zero]
        rfl
    rw [String.toList_ofList, Int.toNat_natCast, read_whole allDigits, Nat.ofDigitChars_append,
      Nat.ofDigitChars_ten_toDigits, Nat.ofDigitChars_replicate_zero, zpow_natCast]
    push_cast
    ring
  · next broken =>
    obtain ⟨places, same⟩ := Int.eq_ofNat_of_zero_le (Int.neg_nonneg.2 (Int.not_le.1 broken).le)
    obtain rfl : exponent = -(places : Int) := by omega
    rw [neg_neg, Int.toNat_natCast, String.toList_ofList]
    generalize zeros : places + 1 - (Nat.toDigits 10 digits).length = missing
    have allDigits := padded_isDigit missing digits
    have long : places < (List.replicate missing '0' ++ Nat.toDigits 10 digits).length := by
      rw [List.length_append, List.length_replicate]
      omega
    rw [read_point (fun char member => allDigits char (List.mem_of_mem_take member))
      (fun char member => allDigits char (List.mem_of_mem_drop member)), List.take_append_drop,
      List.length_drop, Nat.ofDigitChars_append, Nat.ofDigitChars_replicate_zero, Nat.mul_zero,
      Nat.ofDigitChars_ten_toDigits, Nat.sub_sub_self long.le, zpow_neg, zpow_natCast,
      div_eq_mul_inv]

theorem text_chars (decimal : Decimal) :
    ∀ char ∈ decimal.text.toList, char.isDigit = true ∨ char = '.' := by
  intro char member
  unfold text at member
  dsimp only at member
  split at member <;> rw [String.toList_ofList] at member
  · rcases List.mem_append.1 member with digit | zero
    · exact Or.inl (toDigits_isDigit _ char digit)
    · rw [List.eq_of_mem_replicate zero]
      exact Or.inl rfl
  · rcases List.mem_append.1 member with whole | rest
    · exact Or.inl (padded_isDigit _ _ char (List.mem_of_mem_take whole))
    · rcases List.mem_cons.1 rest with point | fraction
      · exact Or.inr point
      · exact Or.inl (padded_isDigit _ _ char (List.mem_of_mem_drop fraction))

theorem text_ne_nil (decimal : Decimal) : decimal.text.toList ≠ [] := by
  unfold text
  dsimp only
  split <;> rw [String.toList_ofList]
  · exact List.append_ne_nil_of_left_ne_nil Nat.toDigits_ne_nil _
  · exact List.append_ne_nil_of_right_ne_nil _ (List.cons_ne_nil _ _)

end Decimal

namespace Number

theorem magnitudeText_chars (number : Number) :
    ∀ char ∈ number.magnitudeText.toList,
      char.isDigit = true ∨ char ∈ ['.', 'i', 'n', 'f'] := by
  intro char member
  unfold magnitudeText at member
  split at member
  · exact Or.inr (List.mem_cons_of_mem _ member)
  · split at member
    · obtain rfl := List.mem_singleton.1 member
      exact Or.inl rfl
    · rcases number.magnitude.shortest.text_chars char member with digit | point
      · exact Or.inl digit
      · exact Or.inr (List.mem_cons.2 (Or.inl point))

theorem magnitudeText_ne_nil (number : Number) : number.magnitudeText.toList ≠ [] := by
  unfold magnitudeText
  split
  · decide
  · split
    · decide
    · exact Decimal.text_ne_nil _

theorem text_of_isNaN {number : Number} (nan : number.isNaN = true) : number.text = "NaN" := by
  rw [text, if_pos nan]

theorem text_toList (number : Number) (proper : number.isNaN = false) :
    number.text.toList =
      (if number.isNegative then ['-'] else []) ++ number.magnitudeText.toList := by
  unfold text
  rw [proper, if_neg Bool.false_ne_true]
  split
  · rw [String.toList_append]
    rfl
  · rfl

theorem text_chars (number : Number) :
    ∀ char ∈ number.text.toList,
      char.isDigit = true ∨ char ∈ ['-', 'N', 'a', '.', 'i', 'n', 'f'] := by
  intro char member
  cases proper : number.isNaN with
  | true =>
    rw [text_of_isNaN proper] at member
    right
    have letters : "NaN".toList ⊆ ['-', 'N', 'a', '.', 'i', 'n', 'f'] := by decide
    exact letters member
  | false =>
    rw [number.text_toList proper] at member
    rcases List.mem_append.1 member with sign | inner
    · split at sign
      · exact Or.inr (List.mem_cons.2 (Or.inl (List.mem_singleton.1 sign)))
      · cases sign
    · rcases number.magnitudeText_chars char inner with digit | letter
      · exact Or.inl digit
      · exact Or.inr (List.mem_append_right ['-', 'N', 'a'] letter)

theorem text_ne_nil (number : Number) : number.text.toList ≠ [] := by
  cases proper : number.isNaN with
  | true =>
    rw [text_of_isNaN proper]
    decide
  | false =>
    rw [number.text_toList proper]
    exact List.append_ne_nil_of_right_ne_nil _ number.magnitudeText_ne_nil

theorem not_mem_magnitudeText (number : Number) {char : Char} (noDigit : char.isDigit = false)
    (absent : char ∉ ['.', 'i', 'n', 'f']) : char ∉ number.magnitudeText.toList := by
  intro member
  rcases number.magnitudeText_chars char member with digit | letter
  · rw [noDigit] at digit
    cases digit
  · exact absent letter

/-- Infinity is alone with its text, and any other text reads as a rational that
the magnitude of the number owns. -/
theorem magnitudeText_read (number : Number) (finite : number.isInfinite = false) :
    number.magnitudeText.toList ≠ "inf".toList ∧
      if number.isZero then Decimal.read number.magnitudeText.toList = 0
      else 0 < Decimal.read number.magnitudeText.toList ∧
        number.magnitude.Owns (Decimal.read number.magnitudeText.toList) := by
  unfold magnitudeText
  rw [finite, if_neg Bool.false_ne_true]
  cases zero : number.isZero with
  | true =>
    rw [if_pos rfl, if_pos rfl, Decimal.read_whole (List.all_eq_true.1 (by decide))]
    exact ⟨by decide, Nat.cast_eq_zero.2 (by decide)⟩
  | false =>
    have positive := significand_pos zero
    have owned := number.magnitude.shortest_owned positive
    rw [if_neg Bool.false_ne_true, if_neg Bool.false_ne_true, Decimal.read_text]
    refine ⟨fun same => ?_, Magnitude.owned_pos owned positive, owned⟩
    have letter : 'i' ∈ number.magnitude.shortest.text.toList := by
      rw [same]
      decide
    rcases Decimal.text_chars _ 'i' letter with digit | point
    · exact absurd digit (by decide)
    · exact absurd point (by decide)

theorem magnitude_of_isZero {number : Number} (zero : number.isZero = true) :
    number.magnitude = ⟨0, leastExponent⟩ := by
  obtain ⟨exponent, fraction⟩ := Bool.and_eq_true_iff.1 zero
  rw [magnitude, if_pos (beq_iff_eq.1 exponent), beq_iff_eq.1 fraction]

theorem magnitude_of_isInfinite {number : Number} (infinite : number.isInfinite = true) :
    number.magnitude = ⟨leadingBit, leastExponent + 2047 - 1⟩ := by
  obtain ⟨exponent, fraction⟩ := Bool.and_eq_true_iff.1 infinite
  rw [magnitude, beq_iff_eq.1 exponent, beq_iff_eq.1 fraction, if_neg (by decide)]
  rfl

theorem magnitude_eq_of_text {left right : Number}
    (same : left.magnitudeText.toList = right.magnitudeText.toList) :
    left.magnitude = right.magnitude := by
  have infinity : ∀ number : Number, number.isInfinite = true →
      number.magnitudeText.toList = "inf".toList := by
    intro number infinite
    rw [magnitudeText, if_pos infinite]
  cases leftInfinite : left.isInfinite with
  | true =>
    cases rightInfinite : right.isInfinite with
    | true => rw [magnitude_of_isInfinite leftInfinite, magnitude_of_isInfinite rightInfinite]
    | false =>
      exact absurd (same.symm.trans (infinity left leftInfinite))
        (right.magnitudeText_read rightInfinite).1
  | false =>
    obtain ⟨leftFinite, leftRead⟩ := left.magnitudeText_read leftInfinite
    cases rightInfinite : right.isInfinite with
    | true => exact absurd (same.trans (infinity right rightInfinite)) leftFinite
    | false =>
      obtain ⟨_, rightRead⟩ := right.magnitudeText_read rightInfinite
      rw [same] at leftRead
      -- zero alone reads as zero; two other magnitudes own the one rational that is read
      cases leftZero : left.isZero with
      | true =>
        rw [leftZero, if_pos rfl] at leftRead
        cases rightZero : right.isZero with
        | true => rw [magnitude_of_isZero leftZero, magnitude_of_isZero rightZero]
        | false =>
          rw [rightZero, if_neg Bool.false_ne_true, leftRead] at rightRead
          exact absurd rightRead.1 (lt_irrefl 0)
      | false =>
        rw [leftZero, if_neg Bool.false_ne_true] at leftRead
        cases rightZero : right.isZero with
        | true =>
          rw [rightZero, if_pos rfl] at rightRead
          rw [rightRead] at leftRead
          exact absurd leftRead.1 (lt_irrefl 0)
        | false =>
          rw [rightZero, if_neg Bool.false_ne_true] at rightRead
          exact Magnitude.owner_unique left.magnitude_regular right.magnitude_regular leftRead.2
            rightRead.2

/-- One NaN in place of all of them; every other number is itself. -/
def collapsed (number : Number) : Number :=
  if number.isNaN then ⟨0x7ff8000000000000⟩ else number

theorem text_collapsed (number : Number) : number.collapsed.text = number.text := by
  unfold collapsed
  split
  · next nan => rw [text_of_isNaN nan, text_of_isNaN (by decide)]
  · rfl

theorem isNaN_iff_text (number : Number) : number.isNaN = true ↔ 'N' ∈ number.text.toList := by
  cases proper : number.isNaN with
  | true =>
    rw [text_of_isNaN proper]
    decide
  | false =>
    refine iff_of_false Bool.false_ne_true fun member => ?_
    rw [number.text_toList proper] at member
    rcases List.mem_append.1 member with sign | letter
    · split at sign
      · exact absurd sign (by decide)
      · cases sign
    · exact number.not_mem_magnitudeText (by decide) (by decide) letter

theorem isNegative_iff_text (number : Number) (proper : number.isNaN = false) :
    number.isNegative = true ↔ '-' ∈ number.text.toList := by
  rw [number.text_toList proper, List.mem_append]
  cases number.isNegative with
  | true => exact iff_of_true rfl (Or.inl (List.mem_singleton.2 rfl))
  | false =>
    refine iff_of_false Bool.false_ne_true ?_
    rintro (sign | inner)
    · cases sign
    · exact number.not_mem_magnitudeText (by decide) (by decide) inner

/-- The text of a number determines it, up to the payload of a NaN. -/
theorem text_eq_iff (left right : Number) :
    left.text = right.text ↔ left.collapsed = right.collapsed := by
  constructor
  · intro same
    have nan : left.isNaN = right.isNaN := by
      rw [Bool.eq_iff_iff, isNaN_iff_text, isNaN_iff_text, same]
    unfold collapsed
    rw [nan]
    cases proper : right.isNaN with
    | true => rfl
    | false =>
      have leftProper := nan.trans proper
      have sign : left.isNegative = right.isNegative := by
        rw [Bool.eq_iff_iff, left.isNegative_iff_text leftProper,
          right.isNegative_iff_text proper, same]
      -- the signs agree and come off, so the texts without them agree as well
      have chars := congrArg String.toList same
      rw [left.text_toList leftProper, right.text_toList proper, sign] at chars
      exact eq_of_sign_and_magnitude sign (magnitude_eq_of_text (List.append_cancel_left chars))
  · intro same
    rw [← left.text_collapsed, ← right.text_collapsed, same]

end Number

end SolidScene
