import RealmConvergence.Text.Unprintable

/-!
# Quoted text

Texts inside messages stand between double quotes, so that their ends and their control characters
can be seen. A quote and a backslash take a backslash before them, tab, line feed, carriage return
and the null character have letters of their own, and every other character without a shape is
written as its number in braces.
-/

set_option autoImplicit false

namespace RealmConvergence.Text

/-- A character's number in lower-case hexadecimal digits, as in `\u{1b}`. -/
def numbered (character : Char) : List Char :=
  ['\\', 'u', '\x7b'] ++ Nat.toDigits 16 character.toNat ++ ['\x7d']

/-- How one character stands in a quoted text. -/
def escaped (character : Char) : List Char :=
  if character = '"' then ['\\', '"']
  else if character = '\\' then ['\\', '\\']
  else if character = '\n' then ['\\', 'n']
  else if character = '\r' then ['\\', 'r']
  else if character = '\t' then ['\\', 't']
  else if character = '\x00' then ['\\', '0']
  else if isUnprintable character then numbered character
  else [character]

/-- A text between double quotes. -/
def quoted (text : String) : String :=
  String.ofList ('"' :: text.toList.flatMap escaped ++ ['"'])

/-- Texts between double quotes, in brackets. -/
def quotedList (texts : List String) : String :=
  "[" ++ ", ".intercalate (texts.map quoted) ++ "]"

end RealmConvergence.Text
