/-!
# SHA-256

The digest that identifies a configuration. The message is padded with a one bit, zeros and its
length in bits to whole blocks of sixteen words; each block is stretched to sixty-four words and
mixed into eight words of state.
-/

set_option autoImplicit false

namespace RealmConvergence.Sha256

/-- The first 32 bits of the fractional parts of the cube roots of the first 64 primes. -/
def roundConstants : List UInt32 := [
  0x428a2f98, 0x71374491, 0xb5c0fbcf, 0xe9b5dba5, 0x3956c25b, 0x59f111f1, 0x923f82a4, 0xab1c5ed5,
  0xd807aa98, 0x12835b01, 0x243185be, 0x550c7dc3, 0x72be5d74, 0x80deb1fe, 0x9bdc06a7, 0xc19bf174,
  0xe49b69c1, 0xefbe4786, 0x0fc19dc6, 0x240ca1cc, 0x2de92c6f, 0x4a7484aa, 0x5cb0a9dc, 0x76f988da,
  0x983e5152, 0xa831c66d, 0xb00327c8, 0xbf597fc7, 0xc6e00bf3, 0xd5a79147, 0x06ca6351, 0x14292967,
  0x27b70a85, 0x2e1b2138, 0x4d2c6dfc, 0x53380d13, 0x650a7354, 0x766a0abb, 0x81c2c92e, 0x92722c85,
  0xa2bfe8a1, 0xa81a664b, 0xc24b8b70, 0xc76c51a3, 0xd192e819, 0xd6990624, 0xf40e3585, 0x106aa070,
  0x19a4c116, 0x1e376c08, 0x2748774c, 0x34b0bcb5, 0x391c0cb3, 0x4ed8aa4a, 0x5b9cca4f, 0x682e6ff3,
  0x748f82ee, 0x78a5636f, 0x84c87814, 0x8cc70208, 0x90befffa, 0xa4506ceb, 0xbef9a3f7, 0xc67178f2]

/-- The eight words of state. -/
structure State where
  (a b c d e f g h : UInt32)

/-- The first 32 bits of the fractional parts of the square roots of the first eight primes. -/
def State.initial : State :=
  ⟨0x6a09e667, 0xbb67ae85, 0x3c6ef372, 0xa54ff53a, 0x510e527f, 0x9b05688c, 0x1f83d9ab, 0x5be0cd19⟩

/-- The words of a state, in order. -/
def State.words (state : State) : List UInt32 :=
  [state.a, state.b, state.c, state.d, state.e, state.f, state.g, state.h]

/-- The sum of two states, word by word. -/
def State.add (left right : State) : State :=
  ⟨left.a + right.a, left.b + right.b, left.c + right.c, left.d + right.d,
    left.e + right.e, left.f + right.f, left.g + right.g, left.h + right.h⟩

/-- Turn a word to the right. -/
def turn (word amount : UInt32) : UInt32 :=
  (word >>> amount) ||| (word <<< (32 - amount))

/-- The message with a one bit, zeros and its length in bits behind it, in whole blocks. -/
def padded (message : List UInt8) : List UInt8 :=
  let length := message.length
  let zeros := (119 - length % 64) % 64
  let bits := 8 * length
  let lengthBytes := (List.range 8).map fun position => UInt8.ofNat (bits >>> (8 * (7 - position)))
  message ++ 0x80 :: List.replicate zeros 0 ++ lengthBytes

/-- Words of four bytes, the first byte the highest. -/
def wordsOf : List UInt8 → List UInt32
  | a :: b :: c :: d :: rest =>
    ((a.toUInt32 <<< 24) ||| (b.toUInt32 <<< 16) ||| (c.toUInt32 <<< 8) ||| d.toUInt32)
      :: wordsOf rest
  | _ => []

/-- The word that follows sixteen words of the stretched block, given with the latest first. -/
def nextWord (latestFirst : List UInt32) : UInt32 :=
  let word (position : Nat) := latestFirst.getD (position - 1) 0
  let second := word 2
  let fifteenth := word 15
  let early := turn fifteenth 7 ^^^ turn fifteenth 18 ^^^ (fifteenth >>> 3)
  let late := turn second 17 ^^^ turn second 19 ^^^ (second >>> 10)
  word 16 + early + word 7 + late

/-- Sixteen words stretched by `count` more, the latest first. -/
def stretch : (count : Nat) → List UInt32 → List UInt32
  | 0, latestFirst => latestFirst
  | count + 1, latestFirst => stretch count (nextWord latestFirst :: latestFirst)

/-- One round, with its constant and its word of the stretched block. -/
def round (state : State) (constant word : UInt32) : State :=
  let high := turn state.e 6 ^^^ turn state.e 11 ^^^ turn state.e 25
  let choice := (state.e &&& state.f) ^^^ ((~~~ state.e) &&& state.g)
  let first := state.h + high + choice + constant + word
  let low := turn state.a 2 ^^^ turn state.a 13 ^^^ turn state.a 22
  let majority := (state.a &&& state.b) ^^^ (state.a &&& state.c) ^^^ (state.b &&& state.c)
  ⟨first + (low + majority), state.a, state.b, state.c, state.d + first, state.e, state.f, state.g⟩

/-- Mix one block of sixteen words into the state. -/
def mix (state : State) (block : List UInt32) : State :=
  let schedule := (stretch 48 block.reverse).reverse
  state.add ((roundConstants.zip schedule).foldl
    (fun mixed pair => round mixed pair.1 pair.2) state)

/-- Mix `count` blocks of a list of words into the state. -/
def mixBlocks : (count : Nat) → List UInt32 → State → State
  | 0, _, state => state
  | count + 1, words, state => mixBlocks count (words.drop 16) (mix state (words.take 16))

/-- The digest of a message, as eight words. -/
def digest (message : List UInt8) : List UInt32 :=
  let words := wordsOf (padded message)
  (mixBlocks (words.length / 16) words State.initial).words

/-- A hexadecimal digit in lower case. -/
def hexDigit (value : Nat) : Char :=
  Nat.digitChar (value % 16)

/-- A word as eight hexadecimal digits. -/
def hexWord (word : UInt32) : List Char :=
  (List.range 8).map fun position => hexDigit (word.toNat >>> (4 * (7 - position)))

/-- The digest of a text's bytes, in hexadecimal digits. -/
def hexDigest (text : String) : String :=
  String.ofList ((digest text.toUTF8.toList).flatMap hexWord)

end RealmConvergence.Sha256
