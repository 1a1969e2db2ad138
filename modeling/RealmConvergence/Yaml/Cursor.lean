/-!
# Places in a YAML text

A cursor is the part of a text that is still to be read, together with the place where it starts.
Columns matter, because indentation gives a YAML document its structure, and so do byte counts,
because a key on one line may have only so many bytes. Columns count characters.

The text is made of printable characters and line breaks. Five characters break a line; a carriage
return before a line feed belongs to the same break.
-/

set_option autoImplicit false

namespace RealmConvergence.Yaml

/-- Why a text is no YAML document, or no document that can be loaded. -/
inductive ReadError where
  /-- The text has a character that is not allowed. -/
  | forbiddenCharacter
  /-- A character stands where no token can start. -/
  | unexpectedCharacter
  /-- A key is not followed by a colon on its line. -/
  | missingColon
  /-- A key, a value or an entry stands where none can. -/
  | misplacedIndicator
  /-- A directive is not understood. -/
  | badDirective
  /-- An anchor or an alias has no name. -/
  | badAnchor
  /-- A tag is not understood. -/
  | badTag
  /-- A quoted text does not end, or holds an escape that is not understood. -/
  | badQuotedText
  /-- A plain text breaks the indentation, or a colon stands in it wrongly. -/
  | badPlainText
  /-- The head of a block text is not understood, or its indentation is mixed. -/
  | badBlockText
  /-- The tokens do not form a document. -/
  | badStructure
  /-- An alias names no anchor before it. -/
  | unknownAnchor
  /-- The text has more than one document. -/
  | severalDocuments
  /-- Collections are nested too deep. -/
  | tooDeep
  /-- Aliases repeat too much of the document. -/
  | tooMuchRepetition
  /-- A scalar does not have the type that its tag asks for. -/
  | badScalar
  /-- A mapping has a key twice. -/
  | duplicateKey
deriving DecidableEq

/-- The words for a text that cannot be read. -/
def ReadError.message : ReadError → String
  | .forbiddenCharacter => "a character is not allowed"
  | .unexpectedCharacter => "no token starts with this character"
  | .missingColon => "a key lacks its colon"
  | .misplacedIndicator => "an indicator is out of place"
  | .badDirective => "a directive is not understood"
  | .badAnchor => "an anchor or an alias has no name"
  | .badTag => "a tag is not understood"
  | .badQuotedText => "a quoted text is not understood"
  | .badPlainText => "a plain text is not understood"
  | .badBlockText => "a block text is not understood"
  | .badStructure => "the tokens form no document"
  | .unknownAnchor => "an alias names no anchor"
  | .severalDocuments => "there is more than one document"
  | .tooDeep => "collections are nested too deep"
  | .tooMuchRepetition => "aliases repeat too much"
  | .badScalar => "a scalar does not have the type of its tag"
  | .duplicateKey => "a mapping has a key twice"

/-- Whether a character may stand in a text at all. -/
def isAllowed (character : Char) : Bool :=
  let code := character.toNat
  code == 0x09 || code == 0x0A || code == 0x0D || (0x20 ≤ code && code ≤ 0x7E) || code == 0x85 ||
    (0xA0 ≤ code && code ≤ 0xFFFD) || 0x10000 ≤ code

/-- Whether a character is a space or a tab. -/
def isBlank (character : Char) : Bool :=
  character == ' ' || character == '\t'

/-- Whether a character breaks a line. -/
def isBreak (character : Char) : Bool :=
  let code := character.toNat
  code == 0x0D || code == 0x0A || code == 0x85 || code == 0x2028 || code == 0x2029

/-- Whether a character is a letter, a digit, a hyphen or an underscore, all ASCII. -/
def isWordCharacter (character : Char) : Bool :=
  character.isAlphanum || character == '_' || character == '-'

/-- The rest of a text and the place where it starts. -/
structure Cursor where
  /-- What is still to be read. -/
  rest : List Char
  /-- How many bytes have been read, in UTF-8. -/
  index : Nat := 0
  /-- How many lines have been read. -/
  line : Nat := 0
  /-- How many characters of the line have been read. -/
  column : Nat := 0

namespace Cursor

/-- The character some places ahead, where there is one. -/
def ahead (cursor : Cursor) (distance : Nat) : Option Char :=
  cursor.rest[distance]?

/-- Whether a given character stands some places ahead. -/
def isAt (cursor : Cursor) (distance : Nat) (character : Char) : Bool :=
  cursor.ahead distance == some character

/-- Whether a space or a tab stands at a distance. -/
def isBlankAt (cursor : Cursor) (distance : Nat) : Bool :=
  (cursor.ahead distance).any isBlank

/-- Whether a line break stands at a distance. -/
def isBreakAt (cursor : Cursor) (distance : Nat) : Bool :=
  (cursor.ahead distance).any isBreak

/-- Whether the line ends at a distance. -/
def isLineEndAt (cursor : Cursor) (distance : Nat) : Bool :=
  (cursor.ahead distance).all isBreak

/-- Whether a word ends at a distance. -/
def isWordEndAt (cursor : Cursor) (distance : Nat) : Bool :=
  (cursor.ahead distance).all fun character => isBlank character || isBreak character

/-- How many bytes characters have in UTF-8. -/
def byteCount (characters : List Char) : Nat :=
  characters.foldl (fun count character => count + character.utf8Size) 0

/-- Pass over characters of the line. -/
def skip (cursor : Cursor) (count : Nat) : Cursor :=
  { cursor with
    rest := cursor.rest.drop count
    index := cursor.index + byteCount (cursor.rest.take count)
    column := cursor.column + count }

/-- The characters of a class at the front, and what follows them. The class holds no line break. -/
def takeWhile (cursor : Cursor) (inClass : Char → Bool) : List Char × Cursor :=
  let taken := cursor.rest.takeWhile inClass
  (taken, cursor.skip taken.length)

/-- Pass over the characters of a class. -/
def skipWhile (cursor : Cursor) (inClass : Char → Bool) : Cursor :=
  (cursor.takeWhile inClass).2

/-- Pass over a line break, where there is one. The result also says what the break stands for in a
text: a line feed, unless it is one of the two separators that are kept. -/
def takeBreak (cursor : Cursor) : Option Char × Cursor :=
  let next (count : Nat) : Cursor :=
    { rest := cursor.rest.drop count
      index := cursor.index + byteCount (cursor.rest.take count)
      line := cursor.line + 1
      column := 0 }
  match cursor.rest with
  | '\r' :: '\n' :: _ => (some '\n', next 2)
  | character :: _ =>
    if isBreak character then
      let code := character.toNat
      (some (if code == 0x2028 || code == 0x2029 then character else '\n'), next 1)
    else (none, cursor)
  | [] => (none, cursor)

/-- Pass over blanks, a comment and the rest of the line; none where anything else stands there. -/
def skipLineEnd? (cursor : Cursor) : Option Cursor :=
  let cursor := cursor.skipWhile isBlank
  let cursor := if cursor.isAt 0 '#' then cursor.skipWhile fun character => !isBreak character
    else cursor
  if cursor.isLineEndAt 0 then some cursor.takeBreak.2 else none

/-- Whether a document marker of three equal characters stands at the start of a line. -/
def isMarker (cursor : Cursor) (character : Char) : Bool :=
  cursor.column == 0 && cursor.isAt 0 character && cursor.isAt 1 character &&
    cursor.isAt 2 character && cursor.isWordEndAt 3

/-- Whether a document marker of either kind stands here. -/
def isDocumentMarker (cursor : Cursor) : Bool :=
  cursor.isMarker '-' || cursor.isMarker '.'

end Cursor

end RealmConvergence.Yaml
