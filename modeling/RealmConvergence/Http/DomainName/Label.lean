import RealmConvergence.Http.DomainName.Composition
import RealmConvergence.Http.DomainName.Mapping
import RealmConvergence.Http.Punycode

/-!
# Labels

A name is made of labels between dots. A label beyond ASCII has to look like what it is: it does not
start with a mark, the characters that join letters without a shape of their own stand where they
change the look of letters, and where a name mixes directions of writing, each label has one
direction that its first character shows.

A label beyond ASCII is written in ASCII with a start that says so, followed by its Punycode.
-/

set_option autoImplicit false

namespace RealmConvergence.Http.DomainName

/-! ## Traits of characters in labels -/

/-- The direction of a character. -/
def direction (character : Char) : Direction :=
  ((traits? character).map (·.direction)).getD .leftToRight

/-- How a character joins others. -/
def joining (character : Char) : Joining := ((traits? character).map (·.joining)).getD .never

/-- Whether a character is a mark. -/
def isMark (character : Char) : Bool := ((traits? character).map (·.isMark)).getD false

/-- Whether a text is written in ASCII. -/
def isAscii (text : List Char) : Bool := text.all fun character => character.toNat < 0x80

/-- Whether a character cannot stand in the host of an address: controls, blanks, and signs that
separate the parts of an address. -/
def isForbidden (character : Char) : Bool :=
  let code := character.toNat
  code ≤ 0x20 || code == 0x7F ||
    ['#', '%', '/', ':', '<', '>', '?', '@', '[', '\\', ']', '^', '|'].contains character

/-! ## Joiners -/

/-- The character that keeps letters apart. -/
def nonJoiner : Char := '\u200c'

/-- The character that brings letters together. -/
def joiner : Char := '\u200d'

/-- The combining class of the mark that takes the vowel from a letter. -/
def viramaClass : Nat := 9

/-- Whether the nearest character that is not transparent joins in one of two ways. -/
def reaches (way : Joining) (neighbours : List Char) : Bool :=
  match neighbours.find? fun other => joining other ≠ .transparent with
  | some other => joining other == .dual || joining other == way
  | none => false

/-- Whether every joiner stands in its place; `before` is what stands before the rest, in reverse.
Both kinds may follow a letter that has lost its vowel, and letters may be kept apart that would
join. -/
def joinersFit (before : List Char) : List Char → Bool
  | [] => true
  | character :: rest =>
    let afterVirama := match before with
      | [] => false
      | previous :: _ => combiningClass previous == viramaClass
    let fits :=
      if character = joiner then afterVirama
      else if character = nonJoiner then
        afterVirama || (reaches .left before && reaches .right rest)
      else true
    fits && joinersFit (character :: before) rest

/-! ## Directions -/

/-- Whether a character makes a name mix directions. -/
def isRightToLeft (character : Char) : Bool :=
  [.rightToLeft, .arabicLetter, .arabicNumber].contains (direction character)

/-- The directions that a label of either direction may have. -/
def neutralDirections : List Direction :=
  [.europeanNumber, .europeanSeparator, .commonSeparator, .europeanTerminator, .otherNeutral,
    .boundaryNeutral, .nonspacingMark]

/-- Whether a label from right to left keeps to its direction: it ends in a letter or a number, and
its numbers are of one kind. -/
def fitsRightToLeft (directions : List Direction) (last : Direction) : Bool :=
  let letters : List Direction := [.rightToLeft, .arabicLetter, .arabicNumber]
  (.europeanNumber :: letters).contains last &&
    directions.all (letters ++ neutralDirections).contains &&
    !(directions.contains .europeanNumber && directions.contains .arabicNumber)

/-- Whether a label from left to right keeps to its direction. -/
def fitsLeftToRight (directions : List Direction) (last : Direction) : Bool :=
  [.leftToRight, .europeanNumber].contains last &&
    directions.all (.leftToRight :: neutralDirections).contains

/-- Whether a label of a name that mixes directions keeps to one of them. Marks at its end do not
count as its end. -/
def directionsFit (label : List Char) : Bool :=
  let directions := label.map direction
  match directions with
  | [] => true
  | first :: _ =>
    let last := (directions.reverse.find? (· ≠ .nonspacingMark)).getD first
    if first = .leftToRight then fitsLeftToRight directions last
    else if first = .rightToLeft ∨ first = .arabicLetter then fitsRightToLeft directions last
    else false

/-! ## Labels -/

/-- The greatest length of a label beyond ASCII. -/
def lengthLimit : Nat := 1000

/-- The greatest length of the Punycode of a label that is read. -/
def punycodeLimit : Nat := 2000

/-- Whether a label beyond ASCII looks like what it is. -/
def isProper (label : List Char) : Bool :=
  !(label.head?.any isMark) && joinersFit [] label && label.length ≤ lengthLimit

/-- What the Punycode of a label starts with. -/
def mark : List Char := ['x', 'n', '-', '-']

/-- The label that Punycode stands for. It has to be one that would be written that way. -/
def unmarked? (places : List Char) : Option (List Char) :=
  if punycodeLimit < places.length then none
  else
    match Punycode.decode? places with
    | none => none
    | some label =>
      if !isAscii label && !label.any isForbidden &&
          (label.all fun character => meant? character == some [character]) &&
          composed label == label && isProper label && Punycode.encode label == places then
        some label
      else none

/-- The label that a part of a name stands for, its characters replaced already. -/
def read? (part : List Char) : Option (List Char) :=
  if mark.isPrefixOf part then
    if isAscii part then unmarked? (part.drop mark.length) else none
  else if isAscii part || isProper part then some part
  else none

/-- A label in ASCII. -/
def written (label : List Char) : List Char :=
  if isAscii label then label else mark ++ Punycode.encode label

/-- A name in ASCII, its characters replaced and its labels written with Punycode where they have
to be; none where the text is no name. -/
def toAscii? (text : List Char) : Option (List Char) := do
  let meant ← text.mapM meant?
  let name := composed meant.flatten
  let labels ← (Text.partsBetween (· == '.') name).mapM read?
  let mixes := labels.any (·.any isRightToLeft)
  if name.any isForbidden || (mixes && !labels.all directionsFit) then none
  else some (['.'].intercalate (labels.map written))

end RealmConvergence.Http.DomainName
