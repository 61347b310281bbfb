/-!
Numbers of a scene: the 64-bit binary floating-point values, kept as their bit
patterns. A finite nonzero number is read as significand times a power of two.
Equality is that of floating-point arithmetic, so it is neither reflexive (NaN)
nor finer than the sign of zero; identity of numbers is identity of bits.

Fractions are rounded to the nearest number, and written numbers take the shortest
decimal text that rounds back to them.
-/

namespace SolidScene

/-- A floating-point number: the sign bit, eleven exponent bits, fifty-two
fraction bits, from the highest bit down. -/
structure Number where
  bits : UInt64
  deriving DecidableEq

structure Magnitude where
  significand : Nat
  exponent : Int
  deriving DecidableEq

namespace Number

def signBit : Nat := Nat.pow 2 63

def leadingBit : Nat := Nat.pow 2 52

def leastExponent : Int := -1074

def isNegative (number : Number) : Bool :=
  decide (signBit ≤ number.bits.toNat)

def exponentField (number : Number) : Nat :=
  number.bits.toNat / leadingBit % 2048

def fractionField (number : Number) : Nat :=
  number.bits.toNat % leadingBit

def isNaN (number : Number) : Bool :=
  number.exponentField == 2047 && number.fractionField != 0

def isInfinite (number : Number) : Bool :=
  number.exponentField == 2047 && number.fractionField == 0

def isZero (number : Number) : Bool :=
  number.exponentField == 0 && number.fractionField == 0

/-- Floating-point equality: a NaN equals nothing, and the two zeros are equal. -/
def equal (left right : Number) : Bool :=
  !left.isNaN && !right.isNaN && (left == right || (left.isZero && right.isZero))

/-- The magnitude of a finite number. -/
def magnitude (number : Number) : Magnitude :=
  -- below the least normal number the significand has no leading bit
  if number.exponentField = 0 then
    ⟨number.fractionField, leastExponent⟩
  else
    ⟨leadingBit + number.fractionField, leastExponent + number.exponentField - 1⟩

def add (left right : Number) : Number :=
  ⟨(Float.ofBits left.bits + Float.ofBits right.bits).toBits⟩

def multiply (left right : Number) : Number :=
  ⟨(Float.ofBits left.bits * Float.ofBits right.bits).toBits⟩

instance : Add Number := ⟨add⟩
instance : Mul Number := ⟨multiply⟩

theorem exponentField_lt (number : Number) : number.exponentField < 2048 :=
  Nat.mod_lt _ (by decide)

theorem fractionField_lt (number : Number) : number.fractionField < leadingBit :=
  Nat.mod_lt _ (by decide)

theorem equal_comm (left right : Number) : left.equal right = right.equal left := by
  rw [equal, equal, Bool.beq_comm, Bool.and_comm left.isZero, Bool.and_comm (!left.isNaN)]

theorem equal_self (number : Number) : number.equal number = !number.isNaN := by
  simp [equal]

end Number

/-!
Rounding of exact fractions to numbers: to the nearest one, and of two equally
near ones to the one with the even significand. Decimals, integers and the
narrower 32-bit numbers are all read through this one rule. A fraction is given
by a numerator and a positive denominator.
-/

def roundQuotient (num den : Nat) : Nat :=
  let below := num / den
  let twiceRest := 2 * (num % den)
  -- a half goes to the even neighbour
  if twiceRest < den ∨ (twiceRest = den ∧ below % 2 = 0) then below else below + 1

namespace Number

def inUnits (num den : Nat) (exponent : Int) : Nat × Nat :=
  (num * Nat.pow 2 (-exponent).toNat, den * Nat.pow 2 exponent.toNat)

/-- Exponent of the last place of the number nearest to `num / den`. -/
def lastPlace (num den : Nat) : Int :=
  -- fifty-three bits, unless that would need an exponent below the least one
  let least : Int := max (num.log2 - den.log2 - 53) leastExponent
  let scaled := inUnits num den least
  if scaled.1 / scaled.2 < 2 * leadingBit then least else least + 1

def infinityBits : Nat := 2047 * leadingBit

def nearestBits (num den : Nat) : Nat :=
  if num = 0 then 0
  else
    let place := lastPlace num den
    let scaled := inUnits num den place
    -- a significand rounded up to twice the leading bit carries into the exponent field
    min ((place - leastExponent).toNat * leadingBit + roundQuotient scaled.1 scaled.2)
      infinityBits

def nearest (negative : Bool) (num den : Nat) : Number :=
  ⟨UInt64.ofNat ((if negative then signBit else 0) + nearestBits num den)⟩

def ofDecimal (negative : Bool) (digits : Nat) (exponent : Int) : Number :=
  nearest negative (digits * Nat.pow 10 exponent.toNat) (Nat.pow 10 (-exponent).toNat)

def ofInt (value : Int) : Number :=
  nearest (decide (value < 0)) value.natAbs 1

/-- The number with the value of a 32-bit floating-point number. -/
def ofSingle (bits : UInt32) : Number :=
  let leading := Nat.pow 2 23
  let negative := decide (Nat.pow 2 31 ≤ bits.toNat)
  let exponentField := bits.toNat / leading % 256
  let fractionField := bits.toNat % leading
  if exponentField = 255 then
    let payload := infinityBits + fractionField * Nat.pow 2 29
    ⟨UInt64.ofNat ((if negative then signBit else 0) + payload)⟩
  else if exponentField = 0 then
    nearest negative fractionField (Nat.pow 2 149)
  else
    nearest negative ((leading + fractionField) * Nat.pow 2 exponentField) (Nat.pow 2 150)

end Number

/-!
Shortest decimal text of a number. The numbers next to a magnitude leave it an
interval: every real inside rounds back to it. Going from coarse to fine powers
of ten, the first grid with a point in that interval fixes the number of digits,
and of its points the one nearest to the magnitude is written. All comparisons
are between natural numbers. The text is positional, however long it becomes.
-/

structure Decimal where
  digits : Nat
  exponent : Int
  deriving DecidableEq

namespace Decimal

def text (decimal : Decimal) : String :=
  let written := Nat.toDigits 10 decimal.digits
  if 0 ≤ decimal.exponent then
    String.ofList (written ++ List.replicate decimal.exponent.toNat '0')
  else
    let places := (-decimal.exponent).toNat
    -- at least one digit stands before the point
    let padded := List.replicate (places + 1 - written.length) '0' ++ written
    let whole := padded.length - places
    String.ofList (padded.take whole ++ '.' :: padded.drop whole)

end Decimal

namespace Magnitude

/-- Against the grid of step `10 ^ place`, the magnitude is
`significand * gridScale / gridStep` points from zero. -/
def gridScale (magnitude : Magnitude) (place : Int) : Nat :=
  Nat.pow 2 magnitude.exponent.toNat * Nat.pow 10 (-place).toNat

def gridStep (magnitude : Magnitude) (place : Int) : Nat :=
  Nat.pow 2 (-magnitude.exponent).toNat * Nat.pow 10 place.toNat

/-- Distance to the lower end of the interval, in quarters of the last place:
half a place, or a quarter where the numbers below lie twice as close. -/
def lowerGap (magnitude : Magnitude) : Nat :=
  if magnitude.significand = Number.leadingBit ∧ Number.leastExponent < magnitude.exponent then 1
  else 2

/-- Whether `point * 10 ^ place` rounds back to the magnitude. -/
def admits (magnitude : Magnitude) (place : Int) (point : Nat) : Bool :=
  let scale := magnitude.gridScale place
  let target := 4 * point * magnitude.gridStep place
  let low := (4 * magnitude.significand - magnitude.lowerGap) * scale
  let high := (4 * magnitude.significand + 2) * scale
  -- an end of the interval is a tie, which goes to the even significand
  if magnitude.significand % 2 = 0 then
    decide (low ≤ target) && decide (target ≤ high)
  else
    decide (low < target) && decide (target < high)

/-- The grid point nearest to the magnitude among those that round back to it. -/
def nearestPoint? (magnitude : Magnitude) (place : Int) : Option Nat :=
  let scaled := magnitude.significand * magnitude.gridScale place
  let step := magnitude.gridStep place
  let below := scaled / step
  -- only a neighbour can be nearest; of two that are equally near the upper one is taken
  match magnitude.admits place below, magnitude.admits place (below + 1) with
  | true, true => some (if 2 * scaled < (2 * below + 1) * step then below else below + 1)
  | true, false => some below
  | false, true => some (below + 1)
  | false, false => none

/-- Searches the grids from `lowest + steps` down to `lowest`. -/
def searchGrids (magnitude : Magnitude) (lowest : Int) : Nat → Decimal
  | 0 =>
    -- on the finest grid the magnitude itself is a point
    ⟨magnitude.significand * magnitude.gridScale lowest / magnitude.gridStep lowest, lowest⟩
  | steps + 1 =>
    match magnitude.nearestPoint? (lowest + (steps + 1 : Nat)) with
    | some point => ⟨point, lowest + (steps + 1 : Nat)⟩
    | none => searchGrids magnitude lowest steps

/-- A place with no grid point in the interval at any place above it. -/
def highestPlace (magnitude : Magnitude) : Int :=
  -- the interval ends below `2 ^ bits`, and `2 ^ 3 < 10 < 2 ^ 4`
  let bits := magnitude.exponent + magnitude.significand.log2 + 1
  if 0 ≤ bits then bits / 3 else bits / 4

def shortest (magnitude : Magnitude) : Decimal :=
  let lowest := min magnitude.exponent 0
  magnitude.searchGrids lowest (magnitude.highestPlace - lowest).toNat

end Magnitude

namespace Number

def magnitudeText (number : Number) : String :=
  if number.isInfinite then "inf"
  else if number.isZero then "0"
  else number.magnitude.shortest.text

def text (number : Number) : String :=
  if number.isNaN then "NaN"
  else if number.isNegative then "-" ++ number.magnitudeText
  else number.magnitudeText

end Number

end SolidScene
