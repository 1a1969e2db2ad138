import RealmConvergence.Json.Basic
import RealmConvergence.Json.Number
import RealmConvergence.Yaml.Value

/-!
# YAML values as JSON values

A mapping becomes an object, its keys written as texts: numbers and truth values in their canonical
form. Two keys may have one text, and then the later one wins. Keys without such a text are refused.
A value with a tag of its own becomes an object whose only member is named by the tag. What is no
finite number becomes null.
-/

set_option autoImplicit false

namespace RealmConvergence.Yaml

/-- Why a mapping is no object. -/
inductive KeyError where
  /-- A key is null or no scalar. -/
  | noText
  /-- A key is no finite number. -/
  | notFinite
deriving DecidableEq

/-- The words for a key that is refused. -/
def KeyError.message : KeyError → String
  | .noText => "key must be a string"
  | .notFinite => "float key must be finite (got NaN or +/-inf)"

/-- The JSON value of a scalar. -/
def Scalar.toJson : Scalar → Json
  | .null => .null
  | .bool value => .bool value
  | .integer value => .number (.integer value)
  | .real (.finite value) => .number (.float value)
  | .real _ => .null
  | .text value => .string value

namespace Value

/-- The text of a key. -/
def keyText : Value → Except KeyError String
  | .scalar (.text value) => .ok value
  | .scalar (.bool value) => .ok (if value then "true" else "false")
  | .scalar (.integer value) => .ok (String.ofList (Json.integerText value))
  | .scalar (.real (.finite value)) => .ok (String.ofList (Json.floatText value))
  | .scalar (.real _) => .error .notFinite
  | _ => .error .noText

/-- The name of the member that holds a value with a tag of its own. -/
def tagName (tag : String) : String := "!" ++ tag

mutual
/-- The JSON value of a YAML value; objects have their members in byte order. -/
def toJson : Value → Except KeyError Json
  | .scalar meaning => .ok meaning.toJson
  | .sequence items => (itemsToJson items).map .array
  | .mapping entries => (entriesToJson [] entries).map .object
  | .tagged tag content => (toJson content).map fun value => .object [(tagName tag, value)]

/-- The JSON values of items. -/
def itemsToJson : List Value → Except KeyError (List Json)
  | [] => .ok []
  | item :: rest =>
    match toJson item with
    | .error problem => .error problem
    | .ok value => (itemsToJson rest).map (value :: ·)

/-- The members of entries, written one after the other into those already there. -/
def entriesToJson (held : List (String × Json)) :
    List (Value × Value) → Except KeyError (List (String × Json))
  | [] => .ok held
  | (key, value) :: rest =>
    match keyText key with
    | .error problem => .error problem
    | .ok name =>
      match toJson value with
      | .error problem => .error problem
      | .ok value => entriesToJson (Entries.put name value held) rest
end

end Value

end RealmConvergence.Yaml
