import RealmConvergence.Http.DomainName.CharacterTable
import RealmConvergence.Text.Numeral
import RealmConvergence.Text.Parts

/-!
# The characters of names

What the rules on names ask about a character: the direction it is written in, how its shape joins
those beside it, whether it is a mark on another character, and its combining class, which orders
several marks on one character. A character that has no such traits cannot stand in a name.
-/

set_option autoImplicit false

namespace RealmConvergence.Http.DomainName

/-- The direction in which a character is written. -/
inductive Direction where
  /-- Left to right, as Latin letters are. -/
  | leftToRight
  /-- Right to left, as Hebrew letters are. -/
  | rightToLeft
  /-- Right to left among Arabic letters. -/
  | arabicLetter
  /-- A number among Arabic letters. -/
  | arabicNumber
  /-- A number as in European scripts. -/
  | europeanNumber
  /-- A sign between two numbers. -/
  | europeanSeparator
  /-- A sign beside a number. -/
  | europeanTerminator
  /-- A sign between two numbers of the same kind. -/
  | commonSeparator
  /-- A character without a shape. -/
  | boundaryNeutral
  /-- Another sign without a direction of its own. -/
  | otherNeutral
  /-- A mark without a width, which follows the character before it. -/
  | nonspacingMark
deriving DecidableEq

/-- How the shape of a character joins those beside it. -/
inductive Joining where
  /-- It joins nothing. -/
  | never
  /-- It joins on both sides. -/
  | dual
  /-- It joins the character after it. -/
  | left
  /-- It joins the character before it. -/
  | right
  /-- It lets the characters on both sides join each other. -/
  | transparent
deriving DecidableEq

/-- The traits of a character. -/
structure Traits where
  /-- The direction. -/
  direction : Direction := .leftToRight
  /-- The way of joining. -/
  joining : Joining := .never
  /-- Whether it is a mark. -/
  isMark : Bool := false
  /-- The combining class, zero for a character that stands by itself. -/
  combiningClass : Nat := 0
deriving DecidableEq

namespace Traits

/-- Traits with one more, given by its letter in the table; a digit belongs to the combining
class. -/
def extended (traits : Traits) (letter : Char) : Traits :=
  match letter with
  | 'r' => { traits with direction := .rightToLeft }
  | 'a' => { traits with direction := .arabicLetter }
  | 'n' => { traits with direction := .arabicNumber }
  | 'e' => { traits with direction := .europeanNumber }
  | 's' => { traits with direction := .europeanSeparator }
  | 't' => { traits with direction := .europeanTerminator }
  | 'c' => { traits with direction := .commonSeparator }
  | 'b' => { traits with direction := .boundaryNeutral }
  | 'o' => { traits with direction := .otherNeutral }
  | 'm' => { traits with direction := .nonspacingMark }
  | 'D' => { traits with joining := .dual }
  | 'L' => { traits with joining := .left }
  | 'R' => { traits with joining := .right }
  | 'T' => { traits with joining := .transparent }
  | 'M' => { traits with isMark := true }
  | digit =>
    { traits with
      combiningClass := 10 * traits.combiningClass + (Text.digitValue? digit).getD 0 }

/-- The traits of an ASCII character. -/
def ofAscii (character : Char) : Traits :=
  { direction :=
      if character.isAlpha then .leftToRight
      else if character.isDigit then .europeanNumber
      else if ['+', '-'].contains character then .europeanSeparator
      else if ['#', '$', '%'].contains character then .europeanTerminator
      else if [',', '.', '/', ':'].contains character then .commonSeparator
      else .otherNeutral }

end Traits

/-- Characters with the same traits. -/
structure TraitRange where
  /-- The first code point. -/
  first : Nat
  /-- The last code point. -/
  last : Nat
  /-- The traits. -/
  traits : Traits

/-- A word of the table. -/
def TraitRange.ofWord (word : List Char) : TraitRange :=
  let codes := word.takeWhile (· ≠ '/')
  let first := Text.number 16 (codes.takeWhile (· ≠ '-'))
  let last := (codes.dropWhile (· ≠ '-')).drop 1
  { first
    last := if last.isEmpty then first else Text.number 16 last
    traits := ((word.dropWhile (· ≠ '/')).drop 1).foldl Traits.extended {} }

/-- The characters of names beyond ASCII. -/
def traitRanges : Array TraitRange :=
  ((characterLines.flatMap Text.words).map TraitRange.ofWord).toArray

/-- The traits of a character, if it can stand in a name. -/
def traits? (character : Char) : Option Traits :=
  let code := character.toNat
  if code < 0x80 then some (.ofAscii character)
  else
    (traitRanges.find? fun range => range.first ≤ code && code ≤ range.last).map (·.traits)

/-- The combining class of a character. -/
def combiningClass (character : Char) : Nat := ((traits? character).map (·.combiningClass)).getD 0

end RealmConvergence.Http.DomainName
