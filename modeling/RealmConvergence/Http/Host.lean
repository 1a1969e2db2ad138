import RealmConvergence.Http.DomainName.Label
import RealmConvergence.Http.Percent
import RealmConvergence.Text.Bytes
import RealmConvergence.Text.Numeral
import RealmConvergence.Text.Parts

/-!
# Hosts

The host of an address is a name or a number. Names are written in ASCII. A name that ends in a
number is a number: four parts of a version 4 address, each decimal, octal or hexadecimal, the last
one standing for all parts that are left out.
Version 6 addresses stand in brackets, and their longest run of zeros is left out when they are
written.
-/

set_option autoImplicit false

namespace RealmConvergence.Http

/-- Why a text is no address. -/
inductive UrlError where
  /-- The address has no scheme. -/
  | noScheme
  /-- The address has no host, and needs one. -/
  | emptyHost
  /-- The port is no number, or too large. -/
  | badPort
  /-- The host is meant to be a version 4 address, and is none. -/
  | badIpv4
  /-- The host is meant to be a version 6 address, and is none. -/
  | badIpv6
  /-- The host has a character that may not stand there. -/
  | badHostCharacter
  /-- The host is no name. -/
  | badHostName
deriving DecidableEq

/-- The words for a text that is no address. -/
def UrlError.message : UrlError → String
  | .noScheme => "relative URL without a base"
  | .emptyHost => "empty host"
  | .badPort => "invalid port number"
  | .badIpv4 => "invalid IPv4 address"
  | .badIpv6 => "invalid IPv6 address"
  | .badHostCharacter => "invalid domain character"
  | .badHostName => "invalid international domain name"

/-- The host of an address. -/
inductive Host where
  /-- A name, as it is written. -/
  | name (text : String)
  /-- A version 4 address. -/
  | ipv4 (address : Nat)
  /-- A version 6 address in eight pieces. -/
  | ipv6 (pieces : List Nat)
deriving DecidableEq

namespace Host

/-! ## Version 4 -/

/-- One part of a version 4 address. -/
def ipv4Part? (part : List Char) : Option Nat :=
  let read (base : Nat) (digits : List Char) : Option Nat :=
    if Text.areDigits base digits then some (Text.number base digits) else none
  match part with
  | [] => none
  | '0' :: 'x' :: digits => read 16 digits
  | '0' :: 'X' :: digits => read 16 digits
  | '0' :: digit :: digits => read 8 (digit :: digits)
  | digits => read 10 digits

/-- The parts of a name, without the empty one after a dot at the end. -/
def dottedParts (text : List Char) : List (List Char) :=
  let parts := Text.partsBetween (· == '.') text
  if parts.getLast? = some [] then parts.dropLast else parts

/-- Whether a name has to be a version 4 address. -/
def endsInNumber (text : List Char) : Bool :=
  match (dottedParts text).getLast? with
  | none => false
  | some part => (!part.isEmpty && part.all Char.isDigit) || (ipv4Part? part).isSome

/-- The address that the parts of a name give. -/
def ipv4? (text : List Char) : Option Nat :=
  let parts := dottedParts text
  match parts.mapM ipv4Part? with
  | none => none
  | some numbers =>
    match numbers.getLast? with
    | none => none
    | some last =>
      let leading := numbers.dropLast
      if 4 < numbers.length then none
      else if leading.any (255 < ·) then none
      else if 1 <<< (8 * (4 - leading.length)) ≤ last then none
      else
        let weighted := leading.mapIdx fun position value => value <<< (8 * (3 - position))
        some (weighted.foldl (· + ·) last)

/-! ## Version 6 -/

/-- A decimal byte without a zero before other digits. -/
def byte? (part : List Char) : Option Nat :=
  let value := Text.number 10 part
  if part.isEmpty || !part.all Char.isDigit then none
  else if part.head? = some '0' && 1 < part.length then none
  else if 255 < value then none
  else some value

/-- Two pieces written as a version 4 address. -/
def embeddedPieces? (text : List Char) : Option (List Nat) :=
  match (Text.partsBetween (· == '.') text).mapM byte? with
  | some [first, second, third, fourth] => some [256 * first + second, 256 * third + fourth]
  | _ => none

/-- The pieces of a version 6 address and the place where zeros are left out, after the pieces
already read. -/
def readPieces : (fuel : Nat) → (pieces : List Nat) → (gap : Option Nat) → List Char →
    Option (List Nat × Option Nat)
  | 0, _, _, _ => none
  | _ + 1, pieces, gap, [] => some (pieces, gap)
  | fuel + 1, pieces, gap, character :: rest =>
    if 8 ≤ pieces.length then none
    else if character = ':' then
      if gap.isSome then none
      else readPieces fuel (pieces ++ [0]) (some (pieces.length + 1)) rest
    else
      let text := character :: rest
      let digits := (text.take 4).takeWhile fun other => (Text.digitValue? other).isSome
      let piece := Text.number 16 digits
      match text.drop digits.length with
      | [] => some (pieces ++ [piece], gap)
      | '.' :: _ =>
        if digits.isEmpty || 6 < pieces.length then none
        else (embeddedPieces? text).map fun embedded => (pieces ++ embedded, gap)
      | ':' :: after =>
        if after.isEmpty then none else readPieces fuel (pieces ++ [piece]) gap after
      | _ => none

/-- The pieces of a version 6 address, written without brackets. -/
def ipv6? (text : List Char) : Option (List Nat) :=
  let read := match text with
    | ':' :: ':' :: rest => readPieces (text.length + 1) [0] (some 1) rest
    | ':' :: _ => none
    | [] => none
    | [_] => none
    | _ => readPieces (text.length + 1) [] none text
  match read with
  | none => none
  | some (pieces, none) => if pieces.length = 8 then some pieces else none
  | some (pieces, some gap) =>
    some (pieces.take gap ++ List.replicate (8 - pieces.length) 0 ++ pieces.drop gap)

/-- The longest run of zeros, the first of several: its start and its length. -/
def longestGap (pieces : List Nat) : Nat × Nat :=
  let runs := (List.range pieces.length).map fun start =>
    (start, ((pieces.drop start).takeWhile (· == 0)).length)
  runs.foldl (fun best run => if best.2 < run.2 then run else best) (0, 0)

/-- A number in small hexadecimal digits. -/
def hexadecimal (value : Nat) : String := String.ofList (Nat.toDigits 16 value)

/-- A version 6 address without brackets. -/
def ipv6Text (pieces : List Nat) : String :=
  let (start, length) := longestGap pieces
  if length < 2 then ":".intercalate (pieces.map hexadecimal)
  else
    ":".intercalate ((pieces.take start).map hexadecimal) ++ "::" ++
      ":".intercalate ((pieces.drop (start + length)).map hexadecimal)

/-! ## Hosts -/

/-- The host that a text between the slashes names; it is none of another scheme than those of the
web. -/
def parse (text : List Char) : Except UrlError Host :=
  match text with
  | '[' :: rest =>
    if rest.getLast? ≠ some ']' then .error .badIpv6
    else
      match ipv6? rest.dropLast with
      | some pieces => .ok (.ipv6 pieces)
      | none => .error .badIpv6
  | _ =>
    match Text.ofBytes? (Percent.decode text) with
    | none => .error .badHostName
    | some decoded =>
      match DomainName.toAscii? decoded.toList with
      | none => .error .badHostName
      | some written =>
        if written.isEmpty then .error .emptyHost
        else if endsInNumber written then
          match ipv4? written with
          | some address => .ok (.ipv4 address)
          | none => .error .badIpv4
        else .ok (.name (String.ofList written))

/-- The host of an address of another scheme. -/
def parseOther (text : List Char) : Except UrlError Host :=
  match text with
  | '[' :: _ => parse text
  | _ =>
    let excluded := ['\x00', ' ', '#', '/', ':', '<', '>', '?', '@', '[', '\\', ']', '^', '|']
    if text.any excluded.contains then .error .badHostCharacter
    else .ok (.name (String.ofList (Percent.encode (Percent.printableExcept []) text)))

/-- A host as it is written. -/
def text : Host → String
  | .name text => text
  | .ipv4 address =>
    ".".intercalate ([3, 2, 1, 0].map fun place => toString ((address >>> (8 * place)) % 256))
  | .ipv6 pieces => "[" ++ ipv6Text pieces ++ "]"

end Host

end RealmConvergence.Http
