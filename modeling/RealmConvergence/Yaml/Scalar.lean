import RealmConvergence.Decimal.Binary64
import RealmConvergence.Text.Numeral
import RealmConvergence.Yaml.Cursor

/-!
# What scalars mean

A plain scalar without a tag is null, a truth value or a number if it is written like one, and a
text otherwise. Numbers are decimal, hexadecimal, octal or binary integers, and decimals with a
point or an exponent. A decimal numeral that starts with a zero and has further digits is a text.
Integers that do not fit into 64 bits are refused as long as they fit into 128, and are decimals
beyond.
-/

set_option autoImplicit false

namespace RealmConvergence.Yaml

/-- A number of double precision, with the values that have no decimal. -/
inductive Real where
  /-- A finite number. -/
  | finite (value : Binary64)
  /-- An infinite number. -/
  | infinite (negative : Bool)
  /-- No number. -/
  | notANumber
deriving DecidableEq

/-- What a scalar means. -/
inductive Scalar where
  | null
  | bool (value : Bool)
  | integer (value : Int)
  | real (value : Real)
  | text (value : String)
deriving DecidableEq

namespace Scalar

/-- A text that means null. -/
def isNull (text : String) : Bool :=
  text == "null" || text == "Null" || text == "NULL" || text == "~"

/-- A text that means a truth value. -/
def boolean? (text : String) : Option Bool :=
  if text == "true" || text == "True" || text == "TRUE" then some true
  else if text == "false" || text == "False" || text == "FALSE" then some false
  else none

/-- A decimal numeral that starts with a zero and has further digits, with or without a sign. -/
def isPaddedNumeral (text : List Char) : Bool :=
  let digits := match text with
    | '-' :: rest => rest
    | '+' :: rest => rest
    | _ => text
  match digits with
  | '0' :: _ :: _ => digits.all Char.isDigit
  | _ => false

/-- The numeral after a base mark. -/
def marked? : List Char → Option Nat
  | '0' :: 'x' :: digits => Text.numeral? 16 digits
  | '0' :: 'o' :: digits => Text.numeral? 8 digits
  | '0' :: 'b' :: digits => Text.numeral? 2 digits
  | _ => none

/-- The size of an integer without a minus sign. -/
def unsigned? (text : List Char) : Option Nat :=
  let digits := match text with
    | '+' :: rest => rest
    | _ => text
  match marked? digits with
  | some value => some value
  | none => if isPaddedNumeral text then none else Text.numeral? 10 digits

/-- The size of an integer with a minus sign. -/
def negative? (text : List Char) : Option Nat :=
  match text with
  | '-' :: digits =>
    match marked? digits with
    | some value => some value
    | none => if isPaddedNumeral text then none else Text.numeral? 10 digits
  | _ => none

/-- An integer. Those beyond 64 bits are refused while they fit into 128 bits; larger ones are not
read as integers. -/
def integer? (text : List Char) : Option (Except ReadError Int) :=
  match unsigned? text with
  | some size =>
    if size < Nat.pow 2 64 then some (.ok size)
    else if size < Nat.pow 2 128 then some (.error .badScalar)
    else none
  | none =>
    match negative? text with
    | some size =>
      if size ≤ Nat.pow 2 63 then some (.ok (-(size : Int)))
      else if size ≤ Nat.pow 2 127 then some (.error .badScalar)
      else none
    | none => none

/-- The digits, the power of ten and the rest of a decimal without sign and exponent. -/
def mantissa? (text : List Char) : Option (Nat × Int × List Char) :=
  let whole := text.takeWhile Char.isDigit
  let rest := text.dropWhile Char.isDigit
  let (places, rest) := match rest with
    | '.' :: rest => (rest.takeWhile Char.isDigit, rest.dropWhile Char.isDigit)
    | _ => ([], rest)
  (Text.numeral? 10 (whole ++ places)).map fun digits => (digits, -(places.length : Int), rest)

/-- An exponent that ends the text, zero where nothing is left. -/
def exponent? (text : List Char) : Option Int :=
  match text with
  | [] => some 0
  | mark :: rest =>
    if mark = 'e' ∨ mark = 'E' then
      match rest with
      | '-' :: digits => (Text.numeral? 10 digits).map fun value => -(value : Int)
      | '+' :: digits => (Text.numeral? 10 digits).map fun value => (value : Int)
      | digits => (Text.numeral? 10 digits).map fun value => (value : Int)
    else none

/-- A decimal without a plus sign before it. -/
def decimal? (text : List Char) : Option Binary64 := do
  let (negative, size) := match text with
    | '-' :: rest => (true, rest)
    | _ => (false, text)
  let (digits, power, rest) ← mantissa? size
  let exponent ← exponent? rest
  Binary64.ofDecimal? negative digits (power + exponent)

/-- A number of double precision. -/
def real? (text : String) : Option Real :=
  let afterPlus : Option (List Char) := match text.toList with
    | '+' :: '+' :: _ => none
    | '+' :: '-' :: _ => none
    | '+' :: rest => some rest
    | characters => some characters
  match afterPlus with
  | none => none
  | some characters =>
    let unsigned := String.ofList characters
    if unsigned == ".inf" || unsigned == ".Inf" || unsigned == ".INF" then some (.infinite false)
    else if text == "-.inf" || text == "-.Inf" || text == "-.INF" then some (.infinite true)
    else if text == ".nan" || text == ".NaN" || text == ".NAN" then some .notANumber
    else (decimal? characters).map .finite

/-- The meaning of a plain scalar without a tag. -/
def ofPlain (text : String) : Except ReadError Scalar :=
  if text.isEmpty || isNull text then .ok .null
  else
    match boolean? text with
    | some value => .ok (.bool value)
    | none =>
      match integer? text.toList with
      | some found => found.map .integer
      | none =>
        if isPaddedNumeral text.toList then .ok (.text text)
        else
          match real? text with
          | some value => .ok (.real value)
          | none => .ok (.text text)

/-- The meaning of a scalar with one of the standard tags, in quotes or not. -/
def ofTagged (tag text : String) : Except ReadError Scalar :=
  if tag == "tag:yaml.org,2002:bool" then
    match boolean? text with
    | some value => .ok (.bool value)
    | none => .error .badScalar
  else if tag == "tag:yaml.org,2002:int" then
    match integer? text.toList with
    | some found => found.map .integer
    | none => .error .badScalar
  else if tag == "tag:yaml.org,2002:float" then
    match real? text with
    | some value => .ok (.real value)
    | none => .error .badScalar
  else if tag == "tag:yaml.org,2002:null" then
    if isNull text then .ok .null else .error .badScalar
  else .ok (.text text)

end Scalar

end RealmConvergence.Yaml
