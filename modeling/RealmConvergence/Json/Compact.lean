import RealmConvergence.Json.Number

/-!
# JSON text

The compact form of a value has no space and shows members in the order in which they stand, so
for values in byte order it is a canonical form. The indented form, for reports, puts every item and
member on a line of its own, two spaces further in than its container.
-/

set_option autoImplicit false

namespace RealmConvergence.Json

/-- How one character stands in a JSON string. -/
def stringCharacter (character : Char) : List Char :=
  if character = '"' then ['\\', '"']
  else if character = '\\' then ['\\', '\\']
  else if character = '\x08' then ['\\', 'b']
  else if character = '\x0c' then ['\\', 'f']
  else if character = '\n' then ['\\', 'n']
  else if character = '\r' then ['\\', 'r']
  else if character = '\t' then ['\\', 't']
  else if character.toNat < 0x10 then ['\\', 'u', '0', '0', '0'] ++ Nat.toDigits 16 character.toNat
  else if character.toNat < 0x20 then ['\\', 'u', '0', '0'] ++ Nat.toDigits 16 character.toNat
  else [character]

/-- A JSON string. -/
def stringText (text : String) : List Char :=
  '"' :: text.toList.flatMap stringCharacter ++ ['"']

/-- The text of a value that has nothing below it. -/
def boolText (value : Bool) : List Char :=
  if value then ['t', 'r', 'u', 'e'] else ['f', 'a', 'l', 's', 'e']

mutual
/-- The compact form of a value, as characters. -/
def compactText : Json → List Char
  | .null => ['n', 'u', 'l', 'l']
  | .bool value => boolText value
  | .number value => value.text
  | .string text => stringText text
  | .array items => '[' :: compactItems items ++ [']']
  | .object members => '\x7b' :: compactMembers members ++ ['\x7d']

/-- Items with commas between them. -/
def compactItems : List Json → List Char
  | [] => []
  | [item] => compactText item
  | item :: next :: rest => compactText item ++ ',' :: compactItems (next :: rest)

/-- Members with commas between them. -/
def compactMembers : List (String × Json) → List Char
  | [] => []
  | [(name, value)] => stringText name ++ ':' :: compactText value
  | (name, value) :: next :: rest =>
    stringText name ++ ':' :: compactText value ++ ',' :: compactMembers (next :: rest)
end

/-- The compact form of a value. -/
def compact (value : Json) : String :=
  String.ofList (compactText value)

/-- A new line, indented. -/
def newLine (depth : Nat) : List Char :=
  '\n' :: List.replicate (2 * depth) ' '

mutual
/-- The indented form of a value that stands `depth` containers deep, as characters. -/
def indentedText (depth : Nat) : Json → List Char
  | .null => ['n', 'u', 'l', 'l']
  | .bool value => boolText value
  | .number value => value.text
  | .string text => stringText text
  | .array [] => ['[', ']']
  | .array (item :: rest) =>
    '[' :: indentedItems (depth + 1) (item :: rest) ++ newLine depth ++ [']']
  | .object [] => ['\x7b', '\x7d']
  | .object (member :: rest) =>
    '\x7b' :: indentedMembers (depth + 1) (member :: rest) ++ newLine depth ++ ['\x7d']

/-- Items on lines of their own, with commas at the ends. -/
def indentedItems (depth : Nat) : List Json → List Char
  | [] => []
  | [item] => newLine depth ++ indentedText depth item
  | item :: next :: rest =>
    newLine depth ++ indentedText depth item ++ ',' :: indentedItems depth (next :: rest)

/-- Members on lines of their own, with commas at the ends. -/
def indentedMembers (depth : Nat) : List (String × Json) → List Char
  | [] => []
  | [(name, value)] => newLine depth ++ stringText name ++ ':' :: ' ' :: indentedText depth value
  | (name, value) :: next :: rest =>
    newLine depth ++ stringText name ++ ':' :: ' ' :: indentedText depth value ++
      ',' :: indentedMembers depth (next :: rest)
end

/-- The indented form of a value. -/
def indented (value : Json) : String :=
  String.ofList (indentedText 0 value)

end RealmConvergence.Json
