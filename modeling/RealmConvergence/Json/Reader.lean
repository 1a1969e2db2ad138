import RealmConvergence.Json.Basic
import RealmConvergence.Text.Bytes
import RealmConvergence.Text.Numeral

/-!
# Reading JSON text

JSON text is bytes. Where its values begin and end is told by bytes below 128 alone, so a text is
first taken as it is written (`Written.ofBytes?`), byte by byte, each byte standing for the
character of its number. What a string or a number stands for is read later, and only where it is
asked for: the bytes of a string have to be text then and its escapes have to be characters
(`Written.text?`), and a number has to fit (`Numeral.value?`).

Numbers without point and exponent are integers while they fit into 64 bits, signed or unsigned, and
numbers of double precision beyond; a negative zero is one too. Objects keep their members as
written. How deep containers are nested does not matter.
-/

set_option autoImplicit false

namespace RealmConvergence.Json

/-- The digits of a number, as they are written. -/
structure Numeral where
  /-- Whether a minus sign stands before the digits. -/
  negative : Bool
  /-- The digits before the point. -/
  whole : List Char
  /-- The digits after the point, if there is one. -/
  places : List Char
  /-- The exponent, if there is one. -/
  power : Option Int
deriving DecidableEq

/-- A JSON value as it is written. Every character stands for a byte. -/
inductive Written where
  | null
  | bool (value : Bool)
  | number (numeral : Numeral)
  /-- What stands between the quotes. -/
  | string (inside : List Char)
  | array (items : List Written)
  /-- Members, with what stands between the quotes of their names. -/
  | object (members : List (List Char × Written))

namespace Reader

/-- The text without the blanks before it. -/
def skipBlanks (text : List Char) : List Char :=
  text.dropWhile fun character =>
    character == ' ' || character == '\n' || character == '\t' || character == '\r'

/-- Four hexadecimal digits. -/
def hexQuad? : List Char → Option (Nat × List Char)
  | a :: b :: c :: d :: rest => do
    let first ← Text.digitValue? a
    let second ← Text.digitValue? b
    let third ← Text.digitValue? c
    let fourth ← Text.digitValue? d
    pure (((first * 16 + second) * 16 + third) * 16 + fourth, rest)
  | _ => none

/-- The character of a numbered escape; characters beyond the first plane take a pair of numbers. -/
def numberedEscape? (text : List Char) : Option (Char × List Char) := do
  let (code, rest) ← hexQuad? text
  if 0xD800 ≤ code ∧ code < 0xDC00 then
    match rest with
    | '\\' :: 'u' :: low =>
      let (second, rest) ← hexQuad? low
      if 0xDC00 ≤ second ∧ second < 0xE000 then
        pure (Char.ofNat (0x10000 + (code - 0xD800) * 0x400 + (second - 0xDC00)), rest)
      else none
    | _ => none
  else if 0xDC00 ≤ code ∧ code < 0xE000 then none
  else pure (Char.ofNat code, rest)

/-- The character of an escape of one letter. -/
def letterEscape? (letter : Char) : Option Char :=
  match letter with
  | '"' => some '"'
  | '\\' => some '\\'
  | '/' => some '/'
  | 'b' => some '\x08'
  | 'f' => some '\x0c'
  | 'n' => some '\n'
  | 'r' => some '\r'
  | 't' => some '\t'
  | _ => none

/-- What stands between the quotes of a string after its opening quote, and the text after it;
`taken` holds what has been passed, last first. Escapes have to be written in full, whatever they
stand for. -/
def inside? (taken : List Char) : List Char → Option (List Char × List Char)
  | [] => none
  | '"' :: rest => some (taken.reverse, rest)
  | '\\' :: 'u' :: a :: b :: c :: d :: rest =>
    if (hexQuad? [a, b, c, d]).isSome then
      inside? (d :: c :: b :: a :: 'u' :: '\\' :: taken) rest
    else none
  | '\\' :: letter :: rest =>
    if (letterEscape? letter).isSome then inside? (letter :: '\\' :: taken) rest else none
  | character :: rest =>
    if character.toNat < 0x20 then none else inside? (character :: taken) rest

/-- The first character of a text inside a string, unescaped, and the text after it; none where the
string ends. -/
def nextCharacter? : List Char → Option (Char × List Char)
  | '"' :: _ => none
  | '\\' :: 'u' :: rest => numberedEscape? rest
  | '\\' :: letter :: rest => (letterEscape? letter).map fun character => (character, rest)
  | text => text.head?.map fun character => (character, text.tail)

/-- The characters that a text inside a string stands for; `read` holds those read, last first. -/
def characters? : (fuel : Nat) → (read : List Char) → List Char → Option (List Char)
  | _, read, [] => some read.reverse
  | 0, _, _ :: _ => none
  | fuel + 1, read, text => do
    let (character, rest) ← nextCharacter? text
    characters? fuel (character :: read) rest

/-- The number written by a list of decimal digits. -/
def digitsValue (digits : List Char) : Nat :=
  digits.foldl (fun value digit => 10 * value + (digit.toNat - '0'.toNat)) 0

/-- The digits at the front of a text, and the rest. -/
def takeDigits (text : List Char) : List Char × List Char :=
  (text.takeWhile Char.isDigit, text.dropWhile Char.isDigit)

/-- The part of a number after its whole part: digits after a point, and an exponent. -/
def fraction (text : List Char) : Option (List Char × List Char) :=
  match text with
  | '.' :: rest =>
    match takeDigits rest with
    | ([], _) => none
    | (digits, rest) => some (digits, rest)
  | _ => some ([], text)

/-- The exponent of a number, zero where none is written. -/
def exponent (text : List Char) : Option (Option Int × List Char) :=
  let digitsOf (sign : Int) (text : List Char) : Option (Option Int × List Char) :=
    match takeDigits text with
    | ([], _) => none
    | (digits, rest) => some (some (sign * (digitsValue digits : Int)), rest)
  match text with
  | mark :: '+' :: rest => if mark = 'e' ∨ mark = 'E' then digitsOf 1 rest else some (none, text)
  | mark :: '-' :: rest => if mark = 'e' ∨ mark = 'E' then digitsOf (-1) rest else some (none, text)
  | mark :: rest => if mark = 'e' ∨ mark = 'E' then digitsOf 1 rest else some (none, text)
  | [] => some (none, text)

/-- A number after its sign, and the text after it. -/
def numeral? (negative : Bool) (text : List Char) : Option (Numeral × List Char) :=
  match takeDigits text with
  | ([], _) => none
  | ('0' :: _ :: _, _) => none
  | (whole, rest) => do
    let (places, rest) ← fraction rest
    let (power, rest) ← exponent rest
    pure (⟨negative, whole, places, power⟩, rest)

mutual
/-- One value, and the text after it. -/
def value? : (fuel : Nat) → List Char → Option (Written × List Char)
  | 0, _ => none
  | fuel + 1, text =>
    match skipBlanks text with
    | 'n' :: 'u' :: 'l' :: 'l' :: rest => some (.null, rest)
    | 't' :: 'r' :: 'u' :: 'e' :: rest => some (.bool true, rest)
    | 'f' :: 'a' :: 'l' :: 's' :: 'e' :: rest => some (.bool false, rest)
    | '"' :: rest => do
      let (inside, rest) ← inside? [] rest
      pure (.string inside, rest)
    | '-' :: rest => do
      let (numeral, rest) ← numeral? true rest
      pure (.number numeral, rest)
    | '[' :: rest =>
      match skipBlanks rest with
      | ']' :: rest => some (.array [], rest)
      | rest => do
        let (items, rest) ← items? fuel rest
        pure (.array items, rest)
    | '\x7b' :: rest =>
      match skipBlanks rest with
      | '\x7d' :: rest => some (.object [], rest)
      | rest => do
        let (members, rest) ← members? fuel rest
        pure (.object members, rest)
    | rest => do
      let (numeral, rest) ← numeral? false rest
      pure (.number numeral, rest)

/-- The items of an array up to its closing bracket, and the text after it. -/
def items? : (fuel : Nat) → List Char → Option (List Written × List Char)
  | 0, _ => none
  | fuel + 1, text => do
    let (item, rest) ← value? fuel text
    match skipBlanks rest with
    | ']' :: rest => pure ([item], rest)
    | ',' :: rest =>
      let (others, rest) ← items? fuel rest
      pure (item :: others, rest)
    | _ => none

/-- The members of an object up to its closing brace, and the text after it. -/
def members? : (fuel : Nat) → List Char → Option (List (List Char × Written) × List Char)
  | 0, _ => none
  | fuel + 1, text =>
    match skipBlanks text with
    | '"' :: rest => do
      let (name, rest) ← inside? [] rest
      match skipBlanks rest with
      | ':' :: rest =>
        let (held, rest) ← value? fuel rest
        match skipBlanks rest with
        | '\x7d' :: rest => pure ([(name, held)], rest)
        | ',' :: rest =>
          let (others, rest) ← members? fuel rest
          pure ((name, held) :: others, rest)
        | _ => none
      | _ => none
    | _ => none
end

end Reader

/-- The number that digits stand for, where it fits. -/
def Numeral.value? (numeral : Numeral) : Option Number :=
  let digits := Reader.digitsValue (numeral.whole ++ numeral.places)
  let float (power : Int) : Option Number :=
    (Binary64.ofDecimal? numeral.negative digits power).map .float
  if numeral.places.isEmpty && numeral.power.isNone then
    if numeral.negative then
      if digits = 0 then some (.float (Binary64.zero true))
      else if digits ≤ Nat.pow 2 63 then some (.integer (-(digits : Int)))
      else float 0
    else if digits < Nat.pow 2 64 then some (.integer digits)
    else float 0
  else float (numeral.power.getD 0 - (numeral.places.length : Int))

namespace Written

/-- The value that bytes write. -/
def ofBytes? (bytes : List UInt8) : Option Written := do
  let text := bytes.map fun byte => Char.ofNat byte.toNat
  let (written, rest) ← Reader.value? (2 * text.length + 2) text
  if (Reader.skipBlanks rest).isEmpty then pure written else none

/-- The text of a string with this between its quotes. -/
def text? (inside : List Char) : Option String := do
  let decoded ← Text.ofBytes? (inside.map fun byte => UInt8.ofNat byte.toNat)
  let characters ← Reader.characters? decoded.length [] decoded.toList
  pure (String.ofList characters)

mutual
/-- The value that is written, where all strings and numbers in it can be read. -/
def json? : Written → Option Json
  | .null => some .null
  | .bool value => some (.bool value)
  | .number numeral => numeral.value?.map .number
  | .string inside => (text? inside).map .string
  | .array items => (itemsJson? items).map .array
  | .object members => (membersJson? members).map .object

/-- The values that items write. -/
def itemsJson? : List Written → Option (List Json)
  | [] => some []
  | item :: rest => do
    let found ← json? item
    let others ← itemsJson? rest
    pure (found :: others)

/-- The members that are written. -/
def membersJson? : List (List Char × Written) → Option (List (String × Json))
  | [] => some []
  | (name, held) :: rest => do
    let name ← text? name
    let found ← json? held
    let others ← membersJson? rest
    pure ((name, found) :: others)
end

end Written

end RealmConvergence.Json
