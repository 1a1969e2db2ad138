/-!
# Binary numbers of double precision

A finite number of the 64-bit binary format is a significand of at most 53 bits times a power of
two. Decimal numerals are read as the nearest such number, an exact half going to the even
significand, in exact arithmetic on natural numbers.
-/

set_option autoImplicit false

namespace RealmConvergence

/-- A finite number of double precision: `significand · 2 ^ exponent`, with a sign that zero has
too. The exponent lies between -1074 and 971; a significand below `2 ^ 52` has the exponent -1074,
so every number has one form. -/
structure Binary64 where
  /-- Whether the sign is minus. -/
  negative : Bool
  /-- The significand, below `2 ^ 53`. -/
  significand : Nat
  /-- The power of two. -/
  exponent : Int
deriving DecidableEq

namespace Binary64

/-- The smallest exponent of the format. -/
def leastExponent : Int := -1074

/-- The largest exponent of the format. -/
def greatestExponent : Int := 971

/-- Zero with a sign. -/
def zero (negative : Bool) : Binary64 := ⟨negative, 0, leastExponent⟩

/-- Whether a number is zero, of either sign. -/
def isZero (number : Binary64) : Bool := number.significand == 0

/-- Equality of values: the two zeros are equal. -/
def sameValue (left right : Binary64) : Bool :=
  (left.isZero && right.isZero) || left == right

/-- The integer nearest to a quotient, a half going to the even neighbour. -/
def roundQuotient (numerator denominator : Nat) : Nat :=
  let whole := numerator / denominator
  let rest := numerator % denominator
  if 2 * rest < denominator then whole
  else if denominator < 2 * rest then whole + 1
  else whole + whole % 2

/-- A quotient divided by `2 ^ exponent`, as a quotient again. -/
def scaled (numerator denominator : Nat) (exponent : Int) : Nat × Nat :=
  if 0 ≤ exponent then (numerator, denominator * Nat.pow 2 exponent.toNat)
  else (numerator * Nat.pow 2 (-exponent).toNat, denominator)

/-- The exponent at which a positive quotient has a significand of 53 bits, or the least one. -/
def exponentOf (numerator denominator : Nat) : Int :=
  let low : Int := (numerator.log2 : Int) - (denominator.log2 : Int) - 53
  let (top, bottom) := scaled numerator denominator low
  max leastExponent (if top < bottom * Nat.pow 2 53 then low else low + 1)

/-- The number nearest to a quotient, unless the quotient is too large for the format. -/
def ofQuotient? (negative : Bool) (numerator denominator : Nat) : Option Binary64 :=
  if numerator = 0 then some (zero negative)
  else
    let exponent := exponentOf numerator denominator
    let (top, bottom) := scaled numerator denominator exponent
    let rounded := roundQuotient top bottom
    let (significand, exponent) :=
      if rounded = Nat.pow 2 53 then (Nat.pow 2 52, exponent + 1) else (rounded, exponent)
    if greatestExponent < exponent then none else some ⟨negative, significand, exponent⟩

/-- The number nearest to `digits · 10 ^ power`, unless that is too large for the format. Numerals
far outside the format are settled by their count of digits. -/
def ofDecimal? (negative : Bool) (digits : Nat) (power : Int) : Option Binary64 :=
  if digits = 0 then some (zero negative)
  else
    let magnitude : Int := (Nat.toDigits 10 digits).length + power
    if 310 < magnitude then none
    else if magnitude < -330 then some (zero negative)
    else if 0 ≤ power then ofQuotient? negative (digits * Nat.pow 10 power.toNat) 1
    else ofQuotient? negative digits (Nat.pow 10 (-power).toNat)

end Binary64

end RealmConvergence
