import RealmConvergence.Http.DomainName.Character
import RealmConvergence.Http.DomainName.CompositionTable

/-!
# Composed names

A letter with marks can be written as one character or as several, and its marks in several orders.
In the composed form of a name, marks of different classes stand in the order of their classes, and
a letter is one character with as many of its marks as there is such a character for. Syllables of
Hangul are composed of their letters by calculation.

Characters that are only another way of writing one other character are replaced beforehand and have
no composed form here.
-/

set_option autoImplicit false

namespace RealmConvergence.Http.DomainName

/-- A character that is written for two others. -/
structure Composite where
  /-- The first of the two. -/
  first : Nat
  /-- The second of the two. -/
  second : Nat
  /-- The character for both. -/
  whole : Nat

/-- A word of the table. -/
def Composite.ofWord (word : List Char) : Composite :=
  match (Text.partsBetween (· == '.') word).map (Text.number 16) with
  | [first, second, whole] => ⟨first, second, whole⟩
  | _ => ⟨0, 0, 0⟩

/-- The composite characters outside Hangul. -/
def composites : Array Composite :=
  ((compositionLines.flatMap Text.words).map Composite.ofWord).toArray

namespace Hangul

/-- The first syllable. -/
def base : Nat := 0xAC00

/-- How many syllables share an initial letter. -/
def initialSpan : Nat := 588

/-- How many syllables share an initial letter and a vowel. -/
def vowelSpan : Nat := 28

/-- The syllable of an initial letter and a vowel, or of a syllable without a final letter and such
a letter. -/
def compose? (first second : Nat) : Option Nat :=
  if 0x1100 ≤ first ∧ first < 0x1113 ∧ 0x1161 ≤ second ∧ second < 0x1176 then
    some (base + (first - 0x1100) * initialSpan + (second - 0x1161) * vowelSpan)
  else if base ≤ first ∧ first ≤ 0xD7A3 ∧ (first - base) % vowelSpan = 0 ∧
      0x11A7 < second ∧ second < 0x11C3 then
    some (first + (second - 0x11A7))
  else none

/-- The letters of a syllable. -/
def decompose? (code : Nat) : Option (List Nat) :=
  if base ≤ code ∧ code ≤ 0xD7A3 then
    let place := code - base
    let final := place % vowelSpan
    some ([0x1100 + place / initialSpan, 0x1161 + place % initialSpan / vowelSpan] ++
      if final = 0 then [] else [0x11A7 + final])
  else none

end Hangul

/-- The character for two others, if there is one. -/
def compose? (first second : Char) : Option Char :=
  let isPair (composite : Composite) : Bool :=
    composite.second == second.toNat && composite.first == first.toNat
  ((Hangul.compose? first.toNat second.toNat).or
    ((composites.find? isPair).map (·.whole))).map Char.ofNat

/-- The characters that a code point is composed of, in at most so many steps. -/
def decompose : (steps : Nat) → Nat → List Nat
  | 0, code => [code]
  | steps + 1, code =>
    match Hangul.decompose? code with
    | some letters => letters
    | none =>
      match composites.find? fun composite => composite.whole == code with
      | some composite => decompose steps composite.first ++ [composite.second]
      | none => [code]

/-- The characters that a text is composed of. No character is composed in more than four steps. -/
def decomposed (text : List Char) : List Char :=
  text.flatMap fun character =>
    if character.toNat < 0x80 then [character] else (decompose 4 character.toNat).map Char.ofNat

/-- Put a character before others, but after marks of lower classes. -/
def place (character : Char) : List Char → List Char
  | [] => [character]
  | next :: rest =>
    let other := combiningClass next
    if other ≠ 0 ∧ other < combiningClass character then next :: place character rest
    else character :: next :: rest

/-- A text with its marks in the order of their classes. -/
def ordered : List Char → List Char
  | [] => []
  | character :: rest => place character (ordered rest)

/-- How far a text has been composed. -/
structure Composing where
  /-- What stands before the last letter, in reverse. -/
  done : List Char := []
  /-- The last letter, with the marks it has taken up. -/
  letter : Option Char := none
  /-- The marks after it that it has not taken up, in reverse. -/
  marks : List Char := []

namespace Composing

/-- Go on to the next character. A letter takes up a mark unless one of its class or a higher one
stands between them. -/
def add (state : Composing) (character : Char) : Composing :=
  let own := combiningClass character
  match state.letter with
  | none =>
    if own = 0 then { state with letter := some character }
    else { state with done := character :: state.done }
  | some letter =>
    let reaches := match state.marks with
      | [] => true
      | last :: _ => combiningClass last < own
    match if reaches then compose? letter character else none with
    | some whole => { state with letter := some whole }
    | none =>
      if own = 0 then
        { done := state.marks ++ letter :: state.done, letter := some character, marks := [] }
      else { state with marks := character :: state.marks }

/-- The whole text. -/
def text (state : Composing) : List Char :=
  (state.marks ++ state.letter.toList ++ state.done).reverse

end Composing

/-- The composed form of a text. -/
def composed (text : List Char) : List Char :=
  ((ordered (decomposed text)).foldl Composing.add {}).text

end RealmConvergence.Http.DomainName
