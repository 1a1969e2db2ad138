import RealmConvergence.Http.DomainName.Character
import RealmConvergence.Http.DomainName.MappingTable

/-!
# Replacing characters of names

Several characters may write the same name: capitals and small letters, wide and narrow forms,
ligatures and their letters. Before names are compared, each character is replaced by what it stands
for. Some characters stand for nothing and are left out; others cannot stand in a name at all.
-/

set_option autoImplicit false

namespace RealmConvergence.Http.DomainName

/-- A row of characters that stand for others. -/
structure Replacement where
  /-- The first code point. -/
  first : Nat
  /-- How many code points the row has. -/
  count : Nat
  /-- The distance between two of them. -/
  step : Nat
  /-- What the first one stands for. -/
  target : List Nat
  /-- By how much the last character moves on with each of them. -/
  rise : Nat

namespace Replacement

/-- A word of the table. -/
def ofWord (word : List Char) : Replacement :=
  let source := word.takeWhile (· ≠ ':')
  let target := (word.dropWhile (· ≠ ':')).drop 1
  let count := ((source.dropWhile (· ≠ '*')).drop 1).filter (· ≠ '~')
  { first := Text.number 16 (source.takeWhile (· ≠ '*'))
    count := if count.isEmpty then 1 else Text.number 16 count
    step := if '~' ∈ source then 2 else 1
    target :=
      if target.isEmpty then []
      else (Text.partsBetween (· == '.') (target.filter (· ≠ '+'))).map (Text.number 16)
    rise := target.count '+' }

/-- Code points with the last one moved on. -/
def movedOn (distance : Nat) : List Nat → List Nat
  | [] => []
  | [last] => [last + distance]
  | code :: rest => code :: movedOn distance rest

/-- What a code point of the row stands for. -/
def target? (replacement : Replacement) (code : Nat) : Option (List Nat) :=
  let distance := code - replacement.first
  if replacement.first ≤ code ∧ distance < replacement.count * replacement.step ∧
      distance % replacement.step = 0 then
    some (movedOn (replacement.rise * (distance / replacement.step)) replacement.target)
  else none

end Replacement

/-- The rows of characters beyond ASCII that stand for others. -/
def replacements : Array Replacement :=
  ((mappingLines.flatMap Text.words).map Replacement.ofWord).toArray

/-- What a character stands for in a name; none if it cannot stand there. -/
def meant? (character : Char) : Option (List Char) :=
  if character.toNat < 0x80 then some [character.toLower]
  else if (traits? character).isSome then some [character]
  else
    (replacements.findSome? fun replacement => replacement.target? character.toNat).map
      (·.map Char.ofNat)

end RealmConvergence.Http.DomainName
