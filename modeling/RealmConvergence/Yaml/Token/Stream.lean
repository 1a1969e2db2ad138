import RealmConvergence.Yaml.Token.Block
import RealmConvergence.Yaml.Token.Plain
import RealmConvergence.Yaml.Token.Tag

/-!
# The tokens of a text

Outside brackets the columns of a text open and close collections. A scalar, an alias or a closing
bracket may turn out to be a key when a colon follows it, on the same line and within 1024 bytes;
the place where it started is remembered, and the tokens that make it a key are put in there
afterwards.
-/

set_option autoImplicit false

namespace RealmConvergence.Yaml

/-- A node that turns out to be a key if a colon follows it. -/
structure PossibleKey where
  /-- How many tokens stand before the node. -/
  position : Nat
  /-- Where the node starts. -/
  start : Cursor
  /-- Whether nothing but a key can stand there. -/
  required : Bool

/-- The longest distance between the start of a key and its colon, in bytes. -/
def keyLimit : Nat := 1024

/-- The state in which tokens are read. -/
structure Reading where
  /-- What is still to be read. -/
  cursor : Cursor
  /-- The tokens so far. -/
  tokens : Array Token := #[]
  /-- The column of the innermost block collection, -1 outside all of them. -/
  indent : Int := -1
  /-- The columns of the block collections around it, innermost first. -/
  outer : List Int := []
  /-- The possible key inside the innermost brackets, or outside all of them. -/
  possible : Option PossibleKey := none
  /-- The possible keys outside the brackets, innermost first. -/
  waiting : List (Option PossibleKey) := []
  /-- Whether a key may start here. -/
  keyAllowed : Bool := true

namespace Reading

/-- Whether brackets or braces are open. -/
def inFlow (state : Reading) : Bool := !state.waiting.isEmpty

/-- Append a token. -/
def push (state : Reading) (token : Token) : Reading :=
  { state with tokens := state.tokens.push token }

/-- Put a token in at a position. -/
def insertAt (state : Reading) (position : Nat) (token : Token) : Reading :=
  { state with tokens := state.tokens.insertIdxIfInBounds position token }

/-- Pass over characters. -/
def skip (state : Reading) (count : Nat) : Reading :=
  { state with cursor := state.cursor.skip count }

/-- Open a block collection at a column further in than the innermost one, putting its token in at
a position. -/
def openBlock (state : Reading) (column position : Nat) (token : Token) : Reading :=
  if !state.inFlow && state.indent < (column : Int) then
    { state.insertAt position token with
      outer := state.indent :: state.outer, indent := column }
  else state

/-- Close the block collections further in than a column. -/
def closeBlocks (state : Reading) (column : Int) : Reading :=
  if state.inFlow then state
  else
    let columns := state.indent :: state.outer
    let closed := (columns.takeWhile fun held => column < held).length
    { state with
      tokens := state.tokens ++ Array.replicate closed Token.blockEnd
      indent := (columns.drop closed).headD (-1)
      outer := columns.drop (closed + 1) }

/-- Whether a possible key has become impossible, because its line has ended or is too long. -/
def isStale (cursor : Cursor) (possible : PossibleKey) : Bool :=
  possible.start.line < cursor.line || possible.start.index + keyLimit < cursor.index

/-- Give up a possible key. -/
def dropKey? (possible : Option PossibleKey) : Except ReadError Unit :=
  match possible with
  | some key => if key.required then .error .missingColon else .ok ()
  | none => .ok ()

/-- Give up the possible key of this level. -/
def forgetKey (state : Reading) : Except ReadError Reading :=
  (dropKey? state.possible).map fun () => { state with possible := none }

/-- Give up a possible key that has become impossible. -/
def freshKey (cursor : Cursor) (possible : Option PossibleKey) :
    Except ReadError (Option PossibleKey) :=
  match possible with
  | some key =>
    if isStale cursor key then (dropKey? possible).map fun () => none else .ok possible
  | none => .ok none

/-- Give up all possible keys that have become impossible. -/
def forgetStaleKeys (state : Reading) : Except ReadError Reading := do
  let possible ← freshKey state.cursor state.possible
  let waiting ← state.waiting.mapM (freshKey state.cursor)
  pure { state with possible, waiting }

/-- Remember that a node that may be a key starts here. -/
def saveKey (state : Reading) : Except ReadError Reading :=
  if state.keyAllowed then
    state.forgetKey.map fun state =>
      { state with possible := some {
          position := state.tokens.size
          start := state.cursor
          required := !state.inFlow && state.indent == (state.cursor.column : Int) } }
  else .ok state

/-- Pass over blanks, comments and line breaks. Tabs do not count as indentation. -/
def skipToToken : (fuel : Nat) → Reading → Reading
  | 0, state => state
  | fuel + 1, state =>
    let cursor := state.cursor
    let cursor := if cursor.column = 0 ∧ cursor.isAt 0 '\ufeff' then cursor.skip 1 else cursor
    let cursor := cursor.skipWhile fun character =>
      character == ' ' || ((state.inFlow || !state.keyAllowed) && character == '\t')
    let cursor := if cursor.isAt 0 '#' then cursor.skipWhile fun character => !isBreak character
      else cursor
    match cursor.takeBreak with
    | (some _, next) =>
      skipToToken fuel { state with
        cursor := next, keyAllowed := state.keyAllowed || !state.inFlow }
    | (none, _) => { state with cursor := cursor }

/-- The end of the text. -/
def atEnd (state : Reading) : Except ReadError Reading :=
  (state.closeBlocks (-1)).forgetKey.map fun state => state.push .streamEnd

/-- A directive. -/
def atDirective (state : Reading) : Except ReadError Reading := do
  let state ← (state.closeBlocks (-1)).forgetKey
  let (token, next) ← Directive.scan state.cursor
  pure { state.push token with cursor := next, keyAllowed := false }

/-- A document marker. -/
def atMarker (state : Reading) (token : Token) : Except ReadError Reading :=
  (state.closeBlocks (-1)).forgetKey.map fun state =>
    { (state.push token).skip 3 with keyAllowed := false }

/-- An opening bracket or brace. -/
def atOpening (state : Reading) (token : Token) : Except ReadError Reading :=
  state.saveKey.map fun state =>
    { (state.push token).skip 1 with
      waiting := state.possible :: state.waiting, possible := none, keyAllowed := true }

/-- A closing bracket or brace. -/
def atClosing (state : Reading) (token : Token) : Except ReadError Reading :=
  state.forgetKey.map fun state =>
    let state := match state.waiting with
      | possible :: waiting => { state with possible, waiting }
      | [] => state
    { (state.push token).skip 1 with keyAllowed := false }

/-- A comma. -/
def atComma (state : Reading) : Except ReadError Reading :=
  state.forgetKey.map fun state =>
    { (state.push .flowEntry).skip 1 with keyAllowed := true }

/-- A hyphen before an entry. -/
def atEntry (state : Reading) : Except ReadError Reading :=
  if !state.inFlow && !state.keyAllowed then .error .misplacedIndicator
  else
    let state := state.openBlock state.cursor.column state.tokens.size .blockSequenceStart
    state.forgetKey.map fun state =>
      { (state.push .blockEntry).skip 1 with keyAllowed := true }

/-- A question mark before a key. -/
def atKey (state : Reading) : Except ReadError Reading :=
  if !state.inFlow && !state.keyAllowed then .error .misplacedIndicator
  else
    let state := state.openBlock state.cursor.column state.tokens.size .blockMappingStart
    state.forgetKey.map fun state =>
      { (state.push .key).skip 1 with keyAllowed := !state.inFlow }

/-- A colon before a value. -/
def atValue (state : Reading) : Except ReadError Reading :=
  match state.possible with
  | some key =>
    let state := state.insertAt key.position .key
    let state := state.openBlock key.start.column key.position .blockMappingStart
    .ok { (state.push .value).skip 1 with possible := none, keyAllowed := false }
  | none =>
    if !state.inFlow && !state.keyAllowed then .error .misplacedIndicator
    else
      let state := state.openBlock state.cursor.column state.tokens.size .blockMappingStart
      .ok { (state.push .value).skip 1 with keyAllowed := !state.inFlow }

/-- An anchor or an alias. -/
def atAnchor (state : Reading) (token : String → Token) : Except ReadError Reading := do
  let state ← state.saveKey
  let (name, next) ← Anchor.scan state.cursor
  pure { state.push (token name) with cursor := next, keyAllowed := false }

/-- A tag. -/
def atTag (state : Reading) : Except ReadError Reading := do
  let state ← state.saveKey
  let (token, next) ← Tag.scan state.inFlow state.cursor
  pure { state.push token with cursor := next, keyAllowed := false }

/-- A block text. -/
def atBlockText (state : Reading) : Except ReadError Reading := do
  let state ← state.forgetKey
  let (token, next) ← Block.scan state.indent state.cursor
  pure { state.push token with cursor := next, keyAllowed := true }

/-- A quoted text. -/
def atQuotedText (state : Reading) : Except ReadError Reading := do
  let state ← state.saveKey
  let (token, next) ← Quoted.scan state.cursor
  pure { state.push token with cursor := next, keyAllowed := false }

/-- A plain text. -/
def atPlainText (state : Reading) : Except ReadError Reading := do
  let state ← state.saveKey
  let (token, broken, next) ← Plain.scan state.inFlow (state.indent + 1).toNat state.cursor
  pure { state.push token with cursor := next, keyAllowed := broken }

/-- Whether a plain text can start with a character. -/
def startsPlainText (state : Reading) (character : Char) : Bool :=
  let indicators := ['-', '?', ':', ',', '[', ']', '\x7b', '\x7d', '#', '&', '*', '!', '|', '>',
    '\x27', '"', '%', '@', '\x60']
  !(isBlank character || isBreak character || indicators.contains character) ||
    (character == '-' && !state.cursor.isBlankAt 1) ||
    (!state.inFlow && (character == '?' || character == ':') && !state.cursor.isWordEndAt 1)

/-- The token that starts with a character. -/
def atCharacter (state : Reading) (character : Char) : Except ReadError Reading :=
  let cursor := state.cursor
  if cursor.column = 0 ∧ character = '%' then state.atDirective
  else if cursor.isMarker '-' then state.atMarker .documentStart
  else if cursor.isMarker '.' then state.atMarker .documentEnd
  else if character = '[' then state.atOpening .flowSequenceStart
  else if character = '\x7b' then state.atOpening .flowMappingStart
  else if character = ']' then state.atClosing .flowSequenceEnd
  else if character = '\x7d' then state.atClosing .flowMappingEnd
  else if character = ',' then state.atComma
  else if character = '-' ∧ cursor.isWordEndAt 1 then state.atEntry
  else if character = '?' ∧ (state.inFlow ∨ cursor.isWordEndAt 1) then state.atKey
  else if character = ':' ∧ (state.inFlow ∨ cursor.isWordEndAt 1) then state.atValue
  else if character = '*' then state.atAnchor .alias
  else if character = '&' then state.atAnchor .anchor
  else if character = '!' then state.atTag
  else if (character = '|' ∨ character = '>') ∧ !state.inFlow then state.atBlockText
  else if character = '\x27' ∨ character = '"' then state.atQuotedText
  else if state.startsPlainText character then state.atPlainText
  else .error .unexpectedCharacter

/-- Read tokens up to the end of the text. -/
def run : (fuel : Nat) → Reading → Except ReadError (Array Token)
  | 0, _ => .error .badStructure
  | fuel + 1, state => do
    let state := skipToToken (state.cursor.rest.length + 1) state
    let state ← state.forgetStaleKeys
    let state := state.closeBlocks state.cursor.column
    match state.cursor.rest with
    | [] => (state.atEnd).map Reading.tokens
    | character :: _ => run fuel (← state.atCharacter character)

end Reading

/-- The tokens of a text. -/
def Token.ofText (text : String) : Except ReadError (List Token) :=
  let characters := text.toList
  if characters.all isAllowed then
    (Reading.run (characters.length + 1) { cursor := { rest := characters } }).map Array.toList
  else .error .forbiddenCharacter

end RealmConvergence.Yaml
