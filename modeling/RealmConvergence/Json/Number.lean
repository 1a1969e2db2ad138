import RealmConvergence.Json.Basic
import RealmConvergence.Decimal.Shortest

/-!
# Numbers in JSON text

Integers are written with their digits. A number of double precision is written with its shortest
decimal and always shows that it is not an integer: positional notation with at least one place
after the point while the leading digit stands between `10 ^ -5` and `10 ^ 15`, and a signed
exponent beyond.
-/

set_option autoImplicit false

namespace RealmConvergence.Json

/-- The smallest power of ten of a leading digit that is still written positionally. -/
def leastPositional : Int := -5

/-- The largest power of ten of a leading digit that is still written positionally. -/
def greatestPositional : Int := 15

/-- The decimal digits of a natural number. -/
def decimalDigits (value : Nat) : List Char := Nat.toDigits 10 value

/-- The digits of an integer, with a minus sign before a negative one. -/
def integerText : Int → List Char
  | .ofNat value => decimalDigits value
  | .negSucc value => '-' :: decimalDigits (value + 1)

/-- The exponent with its sign. -/
def exponentText : Int → List Char
  | .ofNat value => '+' :: decimalDigits value
  | .negSucc value => '-' :: decimalDigits (value + 1)

/-- The decimal `digits · 10 ^ power` of a positive number. -/
def decimalText (digits : Nat) (power : Int) : List Char :=
  let shown := decimalDigits digits
  let leading : Int := (shown.length : Int) + power - 1
  if leastPositional ≤ leading ∧ leading ≤ greatestPositional then
    if 0 ≤ power then shown ++ List.replicate power.toNat '0' ++ ['.', '0']
    else if 0 ≤ leading then
      let whole := leading.toNat + 1
      shown.take whole ++ '.' :: shown.drop whole
    else '0' :: '.' :: List.replicate (-leading - 1).toNat '0' ++ shown
  else
    let fraction := match shown.drop 1 with
      | [] => []
      | rest => '.' :: rest
    shown.take 1 ++ fraction ++ 'e' :: exponentText leading

/-- A number of double precision in JSON text. -/
def floatText (value : Binary64) : List Char :=
  let size := if value.isZero then ['0', '.', '0'] else
    let (digits, power) := value.shortest
    decimalText digits power
  if value.negative then '-' :: size else size

/-- A number in JSON text. -/
def Number.text : Number → List Char
  | .integer value => integerText value
  | .float value => floatText value

end RealmConvergence.Json
