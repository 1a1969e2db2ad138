/-!
# Punycode

A label of a host name with characters beyond ASCII is written in ASCII letters and digits: first
its ASCII characters, then, in ascending order of the other characters, where each of them stands. A
place is a difference from the place before, in digits whose weights adapt to the differences seen.
-/

set_option autoImplicit false

namespace RealmConvergence.Http.Punycode

/-- A digit of base 36. -/
def digit (value : Nat) : Char :=
  if value < 26 then Char.ofNat ('a'.toNat + value) else Char.ofNat ('0'.toNat + (value - 26))

/-- The value of a digit of base 36. -/
def digitValue? (character : Char) : Option Nat :=
  if 'a' ≤ character ∧ character ≤ 'z' then some (character.toNat - 'a'.toNat)
  else if 'A' ≤ character ∧ character ≤ 'Z' then some (character.toNat - 'A'.toNat)
  else if '0' ≤ character ∧ character ≤ '9' then some (character.toNat - '0'.toNat + 26)
  else none

/-- The least value of a digit, at a position counted in steps of 36, that is followed by others. -/
def threshold (position bias : Nat) : Nat :=
  if position ≤ bias then 1 else min 26 (position - bias)

theorem threshold_pos (position bias : Nat) : 0 < threshold position bias := by
  unfold threshold; split <;> omega

/-- Divide by 35 until the value is small; the steps taken are counted in 36s. -/
def shrink (value steps : Nat) : Nat × Nat :=
  if 455 < value then shrink (value / 35) (steps + 36) else (value, steps)
termination_by value
decreasing_by exact Nat.div_lt_self (by omega) (by omega)

/-- The bias after a difference, which was the first or a later one among so many characters. -/
def adapt (difference count : Nat) (isFirst : Bool) : Nat :=
  let damped := if isFirst then difference / 700 else difference / 2
  let (value, steps) := shrink (damped + damped / count) 0
  steps + 36 * value / (value + 38)

/-- The digits of a difference. -/
def digits (bias position value : Nat) : List Char :=
  let least := threshold position bias
  if value < least then [digit value]
  else
    digit (least + (value - least) % (36 - least)) ::
      digits bias (position + 36) ((value - least) / (36 - least))
termination_by value
decreasing_by
  have positive := threshold_pos position bias
  have smaller : (value - threshold position bias) / (36 - threshold position bias) ≤
      value - threshold position bias := Nat.div_le_self _ _
  omega

/-- How far an encoding has come. -/
structure Progress where
  /-- The digits so far. -/
  written : List Char
  /-- The difference that grows. -/
  difference : Nat
  /-- The bias for the next difference. -/
  bias : Nat
  /-- How many characters have been written. -/
  count : Nat

/-- Go past one character of the label while the places of a code point are looked for. -/
def visit (basic code : Nat) (progress : Progress) (character : Char) : Progress :=
  if character.toNat < code then { progress with difference := progress.difference + 1 }
  else if character.toNat = code then
    { written := progress.written ++ digits progress.bias 36 progress.difference
      difference := 0
      bias := adapt progress.difference (progress.count + 1) (progress.count == basic)
      count := progress.count + 1 }
  else progress

/-- Write the places of code points, the smallest of which is not below a bound. -/
def writePlaces (label : List Char) (basic bound : Nat) (progress : Progress) :
    List Nat → Progress
  | [] => progress
  | code :: rest =>
    let reached := { progress with
      difference := progress.difference + (code - bound) * (progress.count + 1) }
    let passed := label.foldl (visit basic code) reached
    writePlaces label basic (code + 1) { passed with difference := passed.difference + 1 } rest

/-- A label in ASCII letters and digits. -/
def encode (label : List Char) : List Char :=
  let basic := label.filter fun character => character.toNat < 0x80
  let codes := ((label.filter fun character => 0x80 ≤ character.toNat).map Char.toNat).eraseDups
  let start := if basic.isEmpty then [] else basic ++ ['-']
  (writePlaces label basic.length 0x80 ⟨start, 0, 72, basic.length⟩ (codes.mergeSort)).written

/-- A difference and what follows it. -/
def readDifference (bias position weight value : Nat) : List Char → Option (Nat × List Char)
  | [] => none
  | character :: rest =>
    match digitValue? character with
    | none => none
    | some found =>
      let least := threshold position bias
      let value := value + found * weight
      if found < least then some (value, rest)
      else readDifference bias (position + 36) (weight * (36 - least)) value rest

/-- Insert characters at the places that differences give. -/
def insertPlaces : (fuel code position bias : Nat) → (isFirst : Bool) → (label : List Char) →
    List Char → Option (List Char)
  | _, _, _, _, _, label, [] => some label
  | 0, _, _, _, _, _, _ => none
  | fuel + 1, code, position, bias, isFirst, label, text =>
    match readDifference bias 36 1 0 text with
    | none => none
    | some (difference, rest) =>
      let size := label.length + 1
      let place := position + difference
      let code := code + place / size
      if h : code.isValidChar then
        let position := place % size
        insertPlaces fuel code (position + 1) (adapt difference size isFirst) false
          (label.take position ++ Char.ofNatAux code h :: label.drop position) rest
      else none

/-- The part of a text before the last occurrence of a hyphen, and the part after it. -/
def splitLast (text : List Char) : List Char × List Char :=
  let after := (text.reverse.takeWhile (· ≠ '-')).reverse
  (text.take (text.length - after.length - 1), after)

/-- The label that ASCII letters and digits stand for. -/
def decode? (text : List Char) : Option (List Char) :=
  let (basic, places) := if '-' ∈ text then splitLast text else ([], text)
  insertPlaces places.length 0x80 0 72 true basic places

end RealmConvergence.Http.Punycode
