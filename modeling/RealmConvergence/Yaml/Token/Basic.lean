import RealmConvergence.Yaml.Cursor

/-!
# Tokens of a YAML text

The tokens make the structure of a text explicit: where block collections start and end, which
scalars are keys, and what the indicators stand for.
-/

set_option autoImplicit false

namespace RealmConvergence.Yaml

/-- A token. -/
inductive Token where
  /-- The version that a document asks for. -/
  | version (major minor : Nat)
  /-- A short handle for the start of tags. -/
  | tagHandle (handle : String) (start : List UInt8)
  /-- Three hyphens. -/
  | documentStart
  /-- Three points. -/
  | documentEnd
  /-- A block sequence starts. -/
  | blockSequenceStart
  /-- A block mapping starts. -/
  | blockMappingStart
  /-- A block collection ends. -/
  | blockEnd
  /-- An opening bracket. -/
  | flowSequenceStart
  /-- A closing bracket. -/
  | flowSequenceEnd
  /-- An opening brace. -/
  | flowMappingStart
  /-- A closing brace. -/
  | flowMappingEnd
  /-- A hyphen before an entry of a block sequence. -/
  | blockEntry
  /-- A comma. -/
  | flowEntry
  /-- A key follows. -/
  | key
  /-- A value follows. -/
  | value
  /-- A repetition of an anchored node. -/
  | alias (name : String)
  /-- A name for the node that follows. -/
  | anchor (name : String)
  /-- The tag of the node that follows. -/
  | tag (handle : String) (suffix : List UInt8)
  /-- A text, which has a type of its own only if it is plain. -/
  | scalar (text : String) (plain : Bool)
  /-- The text ends. -/
  | streamEnd
deriving DecidableEq

/-- What stands between two words of a quoted or plain text: blanks of one line, or a line break
with further ones. -/
structure Gap where
  /-- Blanks of the line. -/
  blanks : List Char := []
  /-- Whether a line was broken. -/
  broken : Bool := false
  /-- The first line break, where it counts. -/
  firstBreak : Option Char := none
  /-- Further line breaks. -/
  laterBreaks : List Char := []

namespace Gap

/-- What a gap stands for: a single line break becomes a space, and of several the first is
dropped. -/
def text (gap : Gap) : List Char :=
  if gap.broken then
    match gap.firstBreak with
    | some '\n' => if gap.laterBreaks.isEmpty then [' '] else gap.laterBreaks
    | some separator => separator :: gap.laterBreaks
    | none => gap.laterBreaks
  else gap.blanks

/-- Read blanks and line breaks. A tab left of the indentation is refused after a line break. -/
def read (indentation : Nat) : (fuel : Nat) → Gap → Cursor → Except ReadError (Gap × Cursor)
  | 0, gap, cursor => .ok (gap, cursor)
  | fuel + 1, gap, cursor =>
    match cursor.rest with
    | [] => .ok (gap, cursor)
    | character :: _ =>
      if isBlank character then
        if gap.broken then
          if character == '\t' && cursor.column < indentation then .error .badPlainText
          else read indentation fuel gap (cursor.skip 1)
        else read indentation fuel { gap with blanks := gap.blanks ++ [character] } (cursor.skip 1)
      else if isBreak character then
        let (stands, cursor) := cursor.takeBreak
        if gap.broken then
          read indentation fuel
            { gap with laterBreaks := gap.laterBreaks ++ stands.toList } cursor
        else
          read indentation fuel
            { gap with blanks := [], broken := true, firstBreak := stands } cursor
      else .ok (gap, cursor)

end Gap

end RealmConvergence.Yaml
