/-!
# Numerals

A numeral is a row of digits in some base. A digit beyond nine is a letter, small or capital.
-/

set_option autoImplicit false

namespace RealmConvergence.Text

/-- The value of a digit of any base up to sixteen. -/
def digitValue? (character : Char) : Option Nat :=
  if '0' ≤ character ∧ character ≤ '9' then some (character.toNat - '0'.toNat)
  else if 'a' ≤ character ∧ character ≤ 'f' then some (character.toNat - 'a'.toNat + 10)
  else if 'A' ≤ character ∧ character ≤ 'F' then some (character.toNat - 'A'.toNat + 10)
  else none

/-- Whether characters are digits of a base. -/
def areDigits (base : Nat) (digits : List Char) : Bool :=
  digits.all fun character => (digitValue? character).any (· < base)

/-- The number that digits of a base write. -/
def number (base : Nat) (digits : List Char) : Nat :=
  digits.foldl (fun value character => base * value + (digitValue? character).getD 0) 0

/-- The number that digits of a base write; none for other characters and for no digits. -/
def numeral? (base : Nat) (digits : List Char) : Option Nat :=
  if digits.isEmpty || !areDigits base digits then none else some (number base digits)

end RealmConvergence.Text
