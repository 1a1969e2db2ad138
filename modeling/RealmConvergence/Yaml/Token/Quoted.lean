import RealmConvergence.Text.Numeral
import RealmConvergence.Yaml.Token.Basic

/-!
# Quoted texts

In single quotes only the quote itself is written twice. In double quotes a backslash starts an
escape: a letter for a control character, a number, or a line break that does not count.
-/

set_option autoImplicit false

namespace RealmConvergence.Yaml.Quoted

/-- The character of an escape of one letter. -/
def letterEscape? (letter : Char) : Option Char :=
  match letter with
  | '0' => some '\x00'
  | 'a' => some '\x07'
  | 'b' => some '\x08'
  | 't' => some '\t'
  | '\t' => some '\t'
  | 'n' => some '\n'
  | 'v' => some '\x0b'
  | 'f' => some '\x0c'
  | 'r' => some '\r'
  | 'e' => some '\x1b'
  | ' ' => some ' '
  | '"' => some '"'
  | '/' => some '/'
  | '\\' => some '\\'
  | 'N' => some (Char.ofNat 0x85)
  | '_' => some (Char.ofNat 0xA0)
  | 'L' => some (Char.ofNat 0x2028)
  | 'P' => some (Char.ofNat 0x2029)
  | _ => none

/-- The number of hexadecimal digits after a letter that starts a numbered escape. -/
def escapeLength? (letter : Char) : Option Nat :=
  match letter with
  | 'x' => some 2
  | 'u' => some 4
  | 'U' => some 8
  | _ => none

/-- The character of a numbered escape with its digits. -/
def numberedEscape? (digits : List Char) (length : Nat) : Option Char :=
  if digits.length = length then
    match Text.numeral? 16 digits with
    | some code =>
      if (0xD800 ≤ code ∧ code ≤ 0xDFFF) ∨ 0x10FFFF < code then none else some (Char.ofNat code)
    | none => none
  else none

/-- Where the reading of a word of a quoted text stopped. -/
structure Word where
  /-- The text so far, last character first. -/
  read : List Char
  /-- Whether the word ends with a line break that does not count. -/
  brokenByEscape : Bool
  /-- What follows. -/
  cursor : Cursor

/-- Read up to a blank, a line break, the closing quote or the end. -/
def word (quote : Char) : (fuel : Nat) → List Char → Cursor → Except ReadError Word
  | 0, read, cursor => .ok ⟨read, false, cursor⟩
  | fuel + 1, read, cursor =>
    match cursor.rest with
    | [] => .ok ⟨read, false, cursor⟩
    | character :: rest =>
      if isBlank character || isBreak character then .ok ⟨read, false, cursor⟩
      else if quote == '\x27' && character == '\x27' && rest.head? == some '\x27' then
        word quote fuel ('\x27' :: read) (cursor.skip 2)
      else if character == quote then .ok ⟨read, false, cursor⟩
      else if quote == '"' && character == '\\' then
        match rest with
        | [] => .error .badQuotedText
        | letter :: digits =>
          if isBreak letter then .ok ⟨read, true, (cursor.skip 1).takeBreak.2⟩
          else
            match escapeLength? letter with
            | some length =>
              match numberedEscape? (digits.take length) length with
              | some escaped => word quote fuel (escaped :: read) (cursor.skip (2 + length))
              | none => .error .badQuotedText
            | none =>
              match letterEscape? letter with
              | some escaped => word quote fuel (escaped :: read) (cursor.skip 2)
              | none => .error .badQuotedText
      else word quote fuel (character :: read) (cursor.skip 1)

/-- Read words and the gaps between them up to the closing quote; `read` holds the text so far,
last character first. -/
def words (quote : Char) :
    (fuel : Nat) → List Char → Cursor → Except ReadError (String × Cursor)
  | 0, _, _ => .error .badQuotedText
  | fuel + 1, read, cursor =>
    if cursor.isDocumentMarker then .error .badQuotedText
    else if cursor.rest.isEmpty then .error .badQuotedText
    else
      match word quote (cursor.rest.length + 1) read cursor with
      | .error problem => .error problem
      | .ok found =>
        if found.cursor.isAt 0 quote then
          .ok (String.ofList found.read.reverse, found.cursor.skip 1)
        else
          let start : Gap := { broken := found.brokenByEscape }
          match Gap.read 0 (found.cursor.rest.length + 1) start found.cursor with
          | .error problem => .error problem
          | .ok (gap, next) => words quote fuel (gap.text.reverse ++ found.read) next

/-- A quoted text, read from its opening quote on. -/
def scan (cursor : Cursor) : Except ReadError (Token × Cursor) :=
  match cursor.rest with
  | quote :: rest =>
    (words quote (rest.length + 2) [] (cursor.skip 1)).map fun (text, next) =>
      (.scalar text false, next)
  | [] => .error .badQuotedText

end RealmConvergence.Yaml.Quoted
