import RealmConvergence.Decimal.Binary64

/-!
# Shortest decimals

The decimal of a number of double precision is the one with the fewest digits among those that read
back as that number, and the nearest of these. A number of the format stands for an interval of
reals, the ones that round to it; for one digit, two digits and so on the two neighbours of the
number on that decimal grid are tried, in exact arithmetic, and the first grid with a neighbour in
the interval gives the digits.
-/

set_option autoImplicit false

namespace RealmConvergence

/-- A positive quotient of natural numbers. -/
structure Quotient where
  /-- The number above the line. -/
  top : Nat
  /-- The number below the line. -/
  bottom : Nat

namespace Quotient

/-- `left ≤ right`. -/
def le (left right : Quotient) : Bool := left.top * right.bottom ≤ right.top * left.bottom

/-- `left < right`. -/
def lt (left right : Quotient) : Bool := left.top * right.bottom < right.top * left.bottom

/-- A natural number times a power of a base. -/
def power (base factor : Nat) (exponent : Int) : Quotient :=
  if 0 ≤ exponent then ⟨factor * base.pow exponent.toNat, 1⟩
  else ⟨factor, base.pow (-exponent).toNat⟩

/-- How far two quotients are apart. -/
def distance (left right : Quotient) : Quotient :=
  let first := left.top * right.bottom
  let second := right.top * left.bottom
  ⟨(first - second) + (second - first), left.bottom * right.bottom⟩

end Quotient

namespace Binary64

/-- The size of a number, as a quotient. -/
def size (number : Binary64) : Quotient :=
  .power 2 number.significand number.exponent

/-- Halfway to the next smaller number of the format. -/
def lowerEnd (number : Binary64) : Quotient :=
  if number.significand = Nat.pow 2 52 ∧ leastExponent < number.exponent then
    .power 2 (4 * number.significand - 1) (number.exponent - 2)
  else .power 2 (2 * number.significand - 1) (number.exponent - 1)

/-- Halfway to the next larger number of the format. -/
def upperEnd (number : Binary64) : Quotient :=
  .power 2 (2 * number.significand + 1) (number.exponent - 1)

/-- Whether a decimal reads back as a number. The ends of the interval go to the even
significand. -/
def readsBack (number : Binary64) (decimal : Quotient) : Bool :=
  if number.significand % 2 = 0 then
    number.lowerEnd.le decimal && decimal.le number.upperEnd
  else number.lowerEnd.lt decimal && decimal.lt number.upperEnd

/-- The number of digits before the point of a positive number, negative when zeros follow it. -/
def pointPosition (number : Binary64) : Int :=
  let size := number.size
  (Nat.toDigits 10 (size.top * Nat.pow 10 400 / size.bottom)).length - 400

/-- The digits of the nearer neighbour on the grid of multiples of `10 ^ power` that reads back. -/
def neighbour? (number : Binary64) (power : Int) : Option Nat :=
  let size := number.size
  let step := Quotient.power 10 1 power
  let below := size.top * step.bottom / (size.bottom * step.top)
  let lower := Quotient.power 10 below power
  let upper := Quotient.power 10 (below + 1) power
  match number.readsBack lower, number.readsBack upper with
  | true, true =>
    let down := size.distance lower
    let up := size.distance upper
    if down.lt up then some below
    else if up.lt down then some (below + 1)
    else some (below + below % 2)
  | true, false => some below
  | false, true => some (below + 1)
  | false, false => none

/-- Drop zeros at the end of a decimal, at most as many as `limit`. -/
def dropZeros : (limit : Nat) → (digits : Nat) → (power : Int) → Nat × Int
  | 0, digits, power => (digits, power)
  | limit + 1, digits, power =>
    if digits ≠ 0 ∧ digits % 10 = 0 then dropZeros limit (digits / 10) (power + 1)
    else (digits, power)

/-- The shortest decimal `digits · 10 ^ power` of a positive number. Seventeen digits always read
back, so the last case is out of reach. -/
def shortest (number : Binary64) : Nat × Int :=
  let point := number.pointPosition
  let grids := (List.range 17).map fun count => point - ((count + 1 : Nat) : Int)
  let found := grids.findSome? fun power =>
    (number.neighbour? power).map fun digits => (digits, power)
  match found with
  | some (digits, power) => dropZeros 20 digits power
  | none => (number.significand, 0)

end Binary64

end RealmConvergence
