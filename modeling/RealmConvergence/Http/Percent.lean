import RealmConvergence.Text.Numeral

/-!
# Percent encoding

A character that may not stand in a part of an address is written as its UTF-8 bytes, each a percent
sign and two hexadecimal digits. Which characters may stand depends on the part, so the encoder
takes a test for them. Decoding yields bytes; a percent sign without two digits stands for itself.

`decode_encode` says that decoding undoes encoding as long as no percent sign is left as it is.
-/

set_option autoImplicit false

namespace RealmConvergence.Http.Percent

/-- A hexadecimal digit in capitals. -/
def digit (value : Nat) : Char :=
  if value < 10 then Char.ofNat ('0'.toNat + value) else Char.ofNat ('A'.toNat + (value - 10))

/-- An encoded byte. -/
def encodeByte (byte : UInt8) : List Char :=
  ['%', digit (byte.toNat / 16), digit (byte.toNat % 16)]

/-- A character, encoded unless it may stand. -/
def encodeChar (mayStand : Char → Bool) (character : Char) : List Char :=
  if mayStand character then [character]
  else (String.utf8EncodeChar character).flatMap encodeByte

/-- A text with every character encoded that may not stand. -/
def encode (mayStand : Char → Bool) (text : List Char) : List Char :=
  text.flatMap (encodeChar mayStand)

/-- The bytes that a text stands for. -/
def decode : List Char → List UInt8
  | [] => []
  | '%' :: high :: low :: rest =>
    match Text.digitValue? high, Text.digitValue? low with
    | some high, some low => UInt8.ofNat (16 * high + low) :: decode rest
    | _, _ => String.utf8EncodeChar '%' ++ decode (high :: low :: rest)
  | character :: rest => String.utf8EncodeChar character ++ decode rest

/-! ## What may stand -/

/-- Printable ASCII characters outside a list. -/
def printableExcept (excluded : List Char) (character : Char) : Bool :=
  0x20 ≤ character.toNat && character.toNat < 0x7F && !excluded.contains character

/-- What is always encoded after the path. -/
def fragmentExcluded : List Char := [' ', '"', '<', '>', '\x60']

/-- What is encoded in a path that is read. -/
def pathExcluded : List Char := fragmentExcluded ++ ['#', '?', '^', '\x7b', '\x7d']

/-- What is encoded in names and passwords. -/
def userExcluded : List Char := pathExcluded ++ ['/', ':', ';', '=', '@', '[', '\\', ']', '|']

/-- What is encoded in a segment that is added to a path. -/
def segmentExcluded : List Char := pathExcluded ++ ['/', '%']

/-- What is encoded in a query. -/
def queryExcluded : List Char := [' ', '"', '#', '<', '>']

/-! ## Laws -/

/-- The value of a written digit. -/
theorem digitValue?_digit {value : Nat} (small : value < 16) :
    Text.digitValue? (digit value) = some value := by
  have all : ∀ other : Fin 16, Text.digitValue? (digit other.val) = some other.val := by decide
  exact all ⟨value, small⟩

/-- Decoding undoes the encoding of a byte. -/
theorem decode_encodeByte (byte : UInt8) (rest : List Char) :
    decode (encodeByte byte ++ rest) = byte :: decode rest := by
  have bound : byte.toNat < 256 := UInt8.toNat_lt byte
  have high : byte.toNat / 16 < 16 := by omega
  have low : byte.toNat % 16 < 16 := by omega
  simp only [encodeByte, List.cons_append, List.nil_append, decode, digitValue?_digit high,
    digitValue?_digit low]
  congr 1
  apply UInt8.toNat_inj.1
  simp only [UInt8.toNat_ofNat']
  omega

/-- Decoding undoes the encoding of bytes. -/
theorem decode_encodeBytes (bytes : List UInt8) (rest : List Char) :
    decode (bytes.flatMap encodeByte ++ rest) = bytes ++ decode rest := by
  induction bytes with
  | nil => rfl
  | cons byte others ih =>
    rw [List.flatMap_cons, List.append_assoc, decode_encodeByte, ih, List.cons_append]

/-- A character other than a percent sign stands for itself. -/
theorem decode_cons {character : Char} (other : character ≠ '%') (rest : List Char) :
    decode (character :: rest) = String.utf8EncodeChar character ++ decode rest := by
  rw [decode]
  intro high low more same _
  exact absurd same other

/-- **Decoding undoes encoding**, if percent signs are encoded. -/
theorem decode_encode {mayStand : Char → Bool} (percent : mayStand '%' = false) (text : List Char) :
    decode (encode mayStand text) = text.flatMap String.utf8EncodeChar := by
  induction text with
  | nil => rfl
  | cons character rest ih =>
    rw [encode, List.flatMap_cons, List.flatMap_cons, encodeChar]
    split
    · next stands =>
      have other : character ≠ '%' := by
        rintro rfl
        rw [percent] at stands
        exact absurd stands (by decide)
      rw [List.singleton_append, decode_cons other]
      exact congrArg _ ih
    · rw [decode_encodeBytes]
      exact congrArg _ ih

end RealmConvergence.Http.Percent
