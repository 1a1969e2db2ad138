import RealmConvergence.Yaml.Token.Quoted

/-!
# Tags, anchors and directives

A tag is written in full between angle brackets, or as a handle with a suffix. A directive stands
before a document and gives the version it is written for or a handle for tags.

A tag is made of bytes, for percent signs can put any of them into it as long as their leading bits
are those of UTF-8. A zero byte ends it, though what follows still has to be well-formed.
-/

set_option autoImplicit false

namespace RealmConvergence.Yaml

namespace Tag

/-- Whether a character may stand in a tag. Some may only stand between angle brackets. -/
def isTagCharacter (verbatim : Bool) (character : Char) : Bool :=
  isWordCharacter character || [';', '/', '?', ':', '@', '&', '=', '+', '$', '.', '!', '~', '*',
    '\x27', '(', ')'].contains character ||
    (verbatim && [',', '[', ']'].contains character)

/-- One byte written as a percent sign and two hexadecimal digits. -/
def escapedByte? : List Char → Option (UInt8 × List Char)
  | '%' :: high :: low :: rest => do
    let high ← Text.digitValue? high
    let low ← Text.digitValue? low
    pure (UInt8.ofNat (16 * high + low), rest)
  | _ => none

/-- The bytes of one character written with percent signs; `more` bytes still belong to it. -/
def escapedBytes? : (more : Nat) → List Char → Option (List UInt8 × List Char)
  | 0, text => some ([], text)
  | more + 1, text => do
    let (byte, rest) ← escapedByte? text
    if byte.toNat / 64 = 2 then
      let (others, rest) ← escapedBytes? more rest
      pure (byte :: others, rest)
    else none

/-- How many bytes a character has that starts with a given byte. -/
def width? (byte : UInt8) : Option Nat :=
  if byte.toNat < 0x80 then some 1
  else if byte.toNat / 32 = 6 then some 2
  else if byte.toNat / 16 = 14 then some 3
  else if byte.toNat / 8 = 30 then some 4
  else none

/-- One character written with percent signs, as bytes. -/
def escapedCharacter? (text : List Char) : Option (List UInt8 × List Char) := do
  let (first, rest) ← escapedByte? text
  let width ← width? first
  let (others, rest) ← escapedBytes? (width - 1) rest
  pure (first :: others, rest)

/-- The bytes of a tag; `read` holds those before, last first. -/
def readBytes (verbatim : Bool) :
    (fuel : Nat) → List UInt8 → Cursor → Except ReadError (List UInt8 × Cursor)
  | 0, read, cursor => .ok (read, cursor)
  | fuel + 1, read, cursor =>
    match cursor.rest with
    | [] => .ok (read, cursor)
    | '%' :: _ =>
      match escapedCharacter? cursor.rest with
      | some (bytes, rest) =>
        readBytes verbatim fuel (bytes.reverse ++ read)
          (cursor.skip (cursor.rest.length - rest.length))
      | none => .error .badTag
    | character :: _ =>
      if isTagCharacter verbatim character then
        readBytes verbatim fuel ((String.utf8EncodeChar character).reverse ++ read)
          (cursor.skip 1)
      else .ok (read, cursor)

/-- The rest of a tag after characters that belong to it already. -/
def suffix (verbatim : Bool) (before : List Char) (cursor : Cursor) :
    Except ReadError (List UInt8 × Cursor) :=
  (readBytes verbatim (cursor.rest.length + 1)
    (before.flatMap String.utf8EncodeChar).reverse cursor).map
    fun (read, next) => (read.reverse, next)

/-- What counts of a tag: the bytes before the first zero. -/
def upToZero (bytes : List UInt8) : List UInt8 := bytes.takeWhile (· ≠ 0)

/-- A handle: an exclamation mark, word characters and perhaps a second mark. -/
def handle (cursor : Cursor) : List Char × Cursor :=
  let (word, next) := (cursor.skip 1).takeWhile isWordCharacter
  if next.isAt 0 '!' then ('!' :: word ++ ['!'], next.skip 1) else ('!' :: word, next)

/-- A tag between angle brackets. -/
def scanVerbatim (cursor : Cursor) : Except ReadError (Token × Cursor) :=
  match suffix true [] (cursor.skip 2) with
  | .error problem => .error problem
  | .ok (name, next) =>
    if name.isEmpty then .error .badTag
    else if next.isAt 0 '>' then .ok (.tag "" (upToZero name), next.skip 1)
    else .error .badTag

/-- A tag with a handle. A lone exclamation mark is a tag of its own. -/
def scanShort (cursor : Cursor) : Except ReadError (Token × Cursor) :=
  let (start, next) := handle cursor
  if 2 ≤ start.length ∧ start.getLast? = some '!' then
    match suffix false [] next with
    | .error problem => .error problem
    | .ok (name, next) =>
      if name.isEmpty then .error .badTag
      else .ok (.tag (String.ofList start) (upToZero name), next)
  else
    (suffix false (start.drop 1) next).map fun (name, next) =>
      if (upToZero name).isEmpty then (.tag "" (String.utf8EncodeChar '!'), next)
      else (.tag "!" (upToZero name), next)

/-- A tag, which ends with its word or, inside brackets, before a comma. -/
def scan (inFlow : Bool) (cursor : Cursor) : Except ReadError (Token × Cursor) :=
  match if cursor.isAt 1 '<' then scanVerbatim cursor else scanShort cursor with
  | .error problem => .error problem
  | .ok (token, next) =>
    if next.isWordEndAt 0 || (inFlow && next.isAt 0 ',') then .ok (token, next)
    else .error .badTag

end Tag

namespace Anchor

/-- Whether the name of an anchor may end before a character. -/
def mayEndBefore (character : Char) : Bool :=
  isBlank character || isBreak character ||
    ['?', ':', ',', ']', '\x7d', '%', '@', '\x60'].contains character

/-- The name of an anchor or alias after its indicator. -/
def scan (cursor : Cursor) : Except ReadError (String × Cursor) :=
  let (name, next) := (cursor.skip 1).takeWhile isWordCharacter
  if !name.isEmpty && (next.ahead 0).all mayEndBefore then .ok (String.ofList name, next)
  else .error .badAnchor

end Anchor

namespace Directive

/-- A number of at most nine digits. -/
def number (cursor : Cursor) : Except ReadError (Nat × Cursor) :=
  let (digits, next) := cursor.takeWhile Char.isDigit
  if digits.isEmpty || 9 < digits.length then .error .badDirective
  else .ok (digits.foldl (fun value digit => 10 * value + (digit.toNat - '0'.toNat)) 0, next)

/-- The version that a document is written for. -/
def version (cursor : Cursor) : Except ReadError (Token × Cursor) := do
  let (major, next) ← number (cursor.skipWhile isBlank)
  if next.isAt 0 '.' then
    let (minor, next) ← number (next.skip 1)
    pure (.version major minor, next)
  else .error .badDirective

/-- A handle for tags and what it stands for. -/
def tagHandle (cursor : Cursor) : Except ReadError (Token × Cursor) := do
  let cursor := cursor.skipWhile isBlank
  if !cursor.isAt 0 '!' then .error .badDirective
  let (handle, next) := Tag.handle cursor
  if handle ≠ ['!'] ∧ handle.getLast? ≠ some '!' then .error .badDirective
  if !next.isBlankAt 0 then .error .badDirective
  let (start, next) ← Tag.suffix true [] (next.skipWhile isBlank)
  if start.isEmpty || !next.isWordEndAt 0 then .error .badDirective
  pure (.tagHandle (String.ofList handle) (Tag.upToZero start), next)

/-- A directive with the rest of its line. -/
def scan (cursor : Cursor) : Except ReadError (Token × Cursor) := do
  let (name, next) := (cursor.skip 1).takeWhile isWordCharacter
  if !next.isWordEndAt 0 then .error .badDirective
  let (token, next) ←
    if name = ['Y', 'A', 'M', 'L'] then version next
    else if name = ['T', 'A', 'G'] then tagHandle next
    else .error .badDirective
  match next.skipLineEnd? with
  | some next => pure (token, next)
  | none => .error .badDirective

end Directive

end RealmConvergence.Yaml
