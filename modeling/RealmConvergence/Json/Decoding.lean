import RealmConvergence.Collection.NameSet
import RealmConvergence.Json.Number
import RealmConvergence.Text.Quoted

/-!
# Typed values from JSON

A decoder turns a JSON value into a typed one or says what it found in the place of what. Members
of an object are visited in the order in which they stand, and the first problem among them is
reported; that a member is missing is noticed after all others, in the order of declaration.

A record may also be written as an array of its fields in their order of declaration. Fields at the
end that have a default may then be left out.
-/

set_option autoImplicit false

namespace RealmConvergence.Json

/-- Why a value does not have the type that is asked for. -/
inductive DecodeError where
  /-- A value of another type was found. -/
  | invalidType (found : Json) (expected : String)
  /-- A value of the right type was found that is not among the values asked for. -/
  | invalidValue (found : Json) (expected : String)
  /-- An array has the wrong length. -/
  | invalidLength (length : Nat) (expected : String)
  /-- A member is missing. -/
  | missingField (name : String)
  /-- A member is not among those that may stand here. -/
  | unknownField (name : String) (expected : List String)
  /-- A member stands twice. -/
  | duplicateField (name : String)

/-- A name between the quotes of messages. -/
def ticked (name : String) : String := "`" ++ name ++ "`"

/-- The words for a found value. -/
def foundText : Json → String
  | .null => "null"
  | .bool value => "boolean " ++ ticked (if value then "true" else "false")
  | .number (.integer value) => "integer " ++ ticked (String.ofList (integerText value))
  | .number (.float value) => "floating point " ++ ticked (String.ofList (floatText value))
  | .string text => "string " ++ Text.quoted text
  | .array _ => "sequence"
  | .object _ => "map"

/-- The words for the names that may stand in a place. -/
def alternatives : List String → String
  | [] => "there are no fields"
  | [name] => "expected " ++ ticked name
  | [first, second] => "expected " ++ ticked first ++ " or " ++ ticked second
  | names => "expected one of " ++ ", ".intercalate (names.map ticked)

/-- The words for a decoding problem. -/
def DecodeError.message : DecodeError → String
  | .invalidType found expected => s!"invalid type: {foundText found}, expected {expected}"
  | .invalidValue found expected => s!"invalid value: {foundText found}, expected {expected}"
  | .invalidLength length expected => s!"invalid length {length}, expected {expected}"
  | .missingField name => "missing field " ++ ticked name
  | .unknownField name expected => s!"unknown field {ticked name}, {alternatives expected}"
  | .duplicateField name => "duplicate field " ++ ticked name

/-- A way to read typed values from JSON values. -/
abbrev Decoder (α : Type) := Json → Except DecodeError α

namespace Decoder

variable {α : Type}

/-- A text. -/
def text : Decoder String
  | .string text => .ok text
  | found => .error (.invalidType found "a string")

/-- A truth value. -/
def boolean : Decoder Bool
  | .bool value => .ok value
  | found => .error (.invalidType found "a boolean")

/-- A natural number below `2 ^ 64`. -/
def natural : Decoder Nat
  | .number (.integer value) =>
    if 0 ≤ value then .ok value.toNat
    else .error (.invalidValue (.number (.integer value)) "u64")
  | found => .error (.invalidType found "u64")

/-- A value, or none for null. -/
def optional (decoder : Decoder α) : Decoder (Option α)
  | .null => .ok none
  | found => (decoder found).map some

/-- The items of an array, each read by one decoder. -/
def eachItem (decoder : Decoder α) : List Json → Except DecodeError (List α)
  | [] => .ok []
  | item :: rest =>
    match decoder item with
    | .error problem => .error problem
    | .ok value => (eachItem decoder rest).map (value :: ·)

/-- An array. -/
def list (decoder : Decoder α) : Decoder (List α)
  | .array items => eachItem decoder items
  | found => .error (.invalidType found "a sequence")

/-- An array of texts without order. -/
def nameSet : Decoder NameSet :=
  fun found => (list text found).map NameSet.ofList

/-- The members of an object, their values read by one decoder. -/
def eachMember (decoder : Decoder α) : List (String × Json) → Except DecodeError (Entries α)
  | [] => .ok []
  | (name, found) :: rest =>
    match decoder found with
    | .error problem => .error problem
    | .ok value => (eachMember decoder rest).map ((name, value) :: ·)

/-- An object of texts. -/
def texts : Decoder (Table String)
  | .object members => (eachMember text members).map Table.ofList
  | found => .error (.invalidType found "a map")

end Decoder

/-! ## Records -/

/-- What a record says about one of its fields. -/
structure FieldRule where
  /-- The name of the member. -/
  name : String
  /-- Whether a value can stand in the field. -/
  check : Json → Except DecodeError Unit
  /-- Whether the member may be missing from an object. -/
  mayBeMissing : Bool
  /-- Whether the field may be missing at the end of an array. -/
  mayBeCut : Bool

namespace FieldRule

variable {α : Type}

/-- A field that has to be there. -/
def required (name : String) (decoder : Decoder α) : FieldRule :=
  ⟨name, fun found => (decoder found).map fun _ => (), false, false⟩

/-- A field that has a default. -/
def defaulted (name : String) (decoder : Decoder α) : FieldRule :=
  ⟨name, fun found => (decoder found).map fun _ => (), true, true⟩

/-- A field whose value may be null or missing, but not cut from an array. -/
def nullable (name : String) (decoder : Decoder α) : FieldRule :=
  ⟨name, fun found => (decoder.optional found).map fun _ => (), true, false⟩

end FieldRule

/-- The shape of a record. -/
structure Shape where
  /-- The name of the record in messages. -/
  name : String
  /-- The fields, in the order of declaration. -/
  fields : List FieldRule
  /-- Whether other members are refused. -/
  strict : Bool

namespace Shape

/-- The rule for a member, where the record has such a field. -/
def rule? (shape : Shape) (name : String) : Option FieldRule :=
  shape.fields.find? fun field => field.name == name

/-- Visit the members of an object, after the fields already seen. The known members are kept. -/
def visitMembers (shape : Shape) (seen : List String) :
    List (String × Json) → Except DecodeError (Entries Json)
  | [] => .ok []
  | (name, found) :: rest =>
    match shape.rule? name with
    | none =>
      if shape.strict then .error (.unknownField name (shape.fields.map FieldRule.name))
      else visitMembers shape seen rest
    | some rule =>
      if name ∈ seen then .error (.duplicateField name)
      else
        match rule.check found with
        | .error problem => .error problem
        | .ok () => (visitMembers shape (name :: seen) rest).map ((name, found) :: ·)

/-- The first field that has to be there and is not. -/
def checkMissing (present : Entries Json) : List FieldRule → Except DecodeError Unit
  | [] => .ok ()
  | field :: rest =>
    if field.mayBeMissing || (Entries.lookup field.name present).isSome then
      checkMissing present rest
    else .error (.missingField field.name)

/-- Visit the items of an array that stands for the record; `position` items have gone before. -/
def visitItems (shape : Shape) (position : Nat) :
    List FieldRule → List Json → Except DecodeError (Entries Json)
  | [], [] => .ok []
  | [], _ :: rest => .error (.invalidLength (position + rest.length + 1) "fewer elements in array")
  | field :: others, [] =>
    if field.mayBeCut then visitItems shape position others []
    else
      let count := shape.fields.length
      let elements := if count = 1 then "1 element" else s!"{count} elements"
      .error (.invalidLength position s!"struct {shape.name} with {elements}")
  | field :: others, item :: rest =>
    match field.check item with
    | .error problem => .error problem
    | .ok () => (visitItems shape (position + 1) others rest).map ((field.name, item) :: ·)

/-- The members of a value that are fields of the record. -/
def present (shape : Shape) (found : Json) : Except DecodeError (Entries Json) :=
  match found with
  | .object members =>
    match shape.visitMembers [] members with
    | .error problem => .error problem
    | .ok present => (checkMissing present shape.fields).map fun _ => present
  | .array items => shape.visitItems 0 shape.fields items
  | other => .error (.invalidType other s!"struct {shape.name}")

end Shape

/-- The value of a field that has to be there. -/
def needed {α : Type} (present : Entries Json) (name : String) (decoder : Decoder α) :
    Except DecodeError α :=
  match Entries.lookup name present with
  | some found => decoder found
  | none => .error (.missingField name)

/-- The value of a field, or its default. -/
def withDefault {α : Type} (present : Entries Json) (name : String) (decoder : Decoder α)
    (default : α) : Except DecodeError α :=
  match Entries.lookup name present with
  | some found => decoder found
  | none => .ok default

end RealmConvergence.Json
