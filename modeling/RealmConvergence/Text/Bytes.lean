/-!
# Reading bytes as text

Bytes are text in UTF-8. Where they have to be well-formed, bytes that are not give no text. Where
they are read as far as they can be, every longest start of a character that does not become one is
replaced by a single replacement character.
-/

set_option autoImplicit false

namespace RealmConvergence.Text

/-- The text that bytes write, where they are well-formed. -/
def ofBytes? (bytes : List UInt8) : Option String :=
  String.fromUTF8? ⟨bytes.toArray⟩

/-- What stands in the place of bytes that are no character. -/
def replacement : Char := '\ufffd'

/-- The least and the greatest second byte after a first byte, and how many bytes follow the
first. -/
def continuation? (first : Nat) : Option (Nat × Nat × Nat) :=
  if 0xC2 ≤ first ∧ first ≤ 0xDF then some (0x80, 0xBF, 1)
  else if first = 0xE0 then some (0xA0, 0xBF, 2)
  else if first = 0xED then some (0x80, 0x9F, 2)
  else if 0xE1 ≤ first ∧ first ≤ 0xEF then some (0x80, 0xBF, 2)
  else if first = 0xF0 then some (0x90, 0xBF, 3)
  else if 0xF1 ≤ first ∧ first ≤ 0xF3 then some (0x80, 0xBF, 3)
  else if first = 0xF4 then some (0x80, 0x8F, 3)
  else none

/-- How many bytes continue a character: at most so many, the first of them between two bounds. -/
def continuing (least greatest : Nat) : (count : Nat) → List UInt8 → List Nat
  | count + 1, byte :: rest =>
    if least ≤ byte.toNat ∧ byte.toNat ≤ greatest then
      byte.toNat :: continuing 0x80 0xBF count rest
    else []
  | _, _ => []

/-- The characters that bytes write, as far as they can be read. -/
def ofBytes (bytes : List UInt8) : List Char :=
  match bytes with
  | [] => []
  | first :: rest =>
    if first.toNat < 0x80 then Char.ofNat first.toNat :: ofBytes rest
    else
      match continuation? first.toNat with
      | none => replacement :: ofBytes rest
      | some (least, greatest, count) =>
        let found := continuing least greatest count rest
        let character :=
          if found.length = count then
            Char.ofNat (found.foldl (fun value byte => 64 * value + (byte - 0x80))
              (first.toNat % (1 <<< (6 - count))))
          else replacement
        character :: ofBytes (rest.drop found.length)
termination_by bytes.length
decreasing_by
  all_goals simp only [List.length_cons, List.length_drop]
  all_goals omega

end RealmConvergence.Text
