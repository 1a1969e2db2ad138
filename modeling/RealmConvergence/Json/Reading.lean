import RealmConvergence.Json.Decoding
import RealmConvergence.Json.Reader

/-!
# Typed values from JSON text

A reading takes from a text what is asked for and passes over the rest. Of an object that stands for
a record the names are read, and the values of its fields; what stands in other members only has to
be written as a value. An array that stands for a record is read as a whole, and so is every other
value.
-/

set_option autoImplicit false

namespace RealmConvergence.Json

/-- A way to read typed values from what is written. Why nothing can be read is not told. -/
abbrev Reading (α : Type) := Written → Option α

namespace Shape

/-- The members of an object that are fields of the record. -/
def knownMembers? (shape : Shape) : List (List Char × Written) → Option (Entries Json)
  | [] => some []
  | (name, held) :: rest => do
    let name ← Written.text? name
    if (shape.rule? name).isSome then
      let found ← held.json?
      let others ← shape.knownMembers? rest
      pure ((name, found) :: others)
    else shape.knownMembers? rest

/-- What a record that takes other members asks of what is written. -/
def asked? (shape : Shape) : Reading Json
  | .object members => (shape.knownMembers? members).map .object
  | written => written.json?

end Shape

namespace Reading

variable {α : Type}

/-- A record. -/
def record (shape : Shape) (decoder : Decoder α) : Reading α := fun written => do
  let found ← shape.asked? written
  (decoder found).toOption

/-- An array. -/
def list (reading : Reading α) : Reading (List α)
  | .array items => items.mapM reading
  | _ => none

end Reading

end RealmConvergence.Json
