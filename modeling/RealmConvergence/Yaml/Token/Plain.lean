import RealmConvergence.Yaml.Token.Basic

/-!
# Plain texts

A plain text has no quotes. It ends where a comment, a document marker, a colon with a blank after
it or, inside brackets, one of their indicators starts, and outside brackets where a line is
indented no further than the collection around it.
-/

set_option autoImplicit false

namespace RealmConvergence.Yaml.Plain

/-- Whether a character is an indicator inside brackets and braces. -/
def isFlowIndicator (character : Char) : Bool :=
  character == ',' || character == '[' || character == ']' || character == '\x7b' ||
    character == '\x7d'

/-- Whether a plain text ends before a character. -/
def endsBefore (inFlow : Bool) (cursor : Cursor) : Bool :=
  (cursor.isAt 0 ':' && cursor.isWordEndAt 1) ||
    (inFlow && (cursor.ahead 0).any isFlowIndicator)

/-- Whether a colon stands before an indicator, which is refused inside brackets. -/
def misplacedColon (inFlow : Bool) (cursor : Cursor) : Bool :=
  inFlow && cursor.isAt 0 ':' &&
    (cursor.ahead 1).any fun character => isFlowIndicator character || character == '?'

/-- Read the characters of a word; `read` holds those before it, last first. -/
def word (inFlow : Bool) :
    (fuel : Nat) → List Char → Cursor → Except ReadError (List Char × Cursor)
  | 0, read, cursor => .ok (read, cursor)
  | fuel + 1, read, cursor =>
    match cursor.rest with
    | [] => .ok (read, cursor)
    | character :: _ =>
      if isBlank character || isBreak character then .ok (read, cursor)
      else if misplacedColon inFlow cursor then .error .badPlainText
      else if endsBefore inFlow cursor then .ok (read, cursor)
      else word inFlow fuel (character :: read) (cursor.skip 1)

/-- Read words and the gaps between them. The gap before the first word is empty. The result says
whether the text was ended by a line break. -/
def words (inFlow : Bool) (indentation : Nat) :
    (fuel : Nat) → List Char → Gap → Cursor → Except ReadError (List Char × Bool × Cursor)
  | 0, read, gap, cursor => .ok (read, gap.broken, cursor)
  | fuel + 1, read, gap, cursor =>
    if cursor.isDocumentMarker || cursor.isAt 0 '#' then .ok (read, gap.broken, cursor)
    else
      match word inFlow (cursor.rest.length + 1) [] cursor with
      | .error problem => .error problem
      | .ok ([], next) => .ok (read, gap.broken, next)
      | .ok (characters, next) =>
        let read := characters ++ gap.text.reverse ++ read
        if next.isBlankAt 0 || next.isBreakAt 0 then
          match Gap.read indentation (next.rest.length + 1) {} next with
          | .error problem => .error problem
          | .ok (gap, next) =>
            if !inFlow && next.column < indentation then .ok (read, gap.broken, next)
            else words inFlow indentation fuel read gap next
        else .ok (read, false, next)

/-- A plain text, and whether it was ended by a line break. -/
def scan (inFlow : Bool) (indentation : Nat) (cursor : Cursor) :
    Except ReadError (Token × Bool × Cursor) :=
  (words inFlow indentation (cursor.rest.length + 1) [] {} cursor).map
    fun (read, broken, next) => (.scalar (String.ofList read.reverse) true, broken, next)

end RealmConvergence.Yaml.Plain
