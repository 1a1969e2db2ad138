import RealmConvergence.Collection.Entries
import RealmConvergence.Decimal.Binary64

/-!
# JSON values

Configuration documents, remote resources and reports are JSON values. A number is an integer or a
number of double precision, and the two are told apart: `5` and `5.0` are different values. The
members of an object stand in a list. Values read from text keep the order of the text, also with a
name written twice; `Json.ordered` brings them into byte order and lets the later of two members
with one name win.
-/

set_option autoImplicit false

namespace RealmConvergence

/-- A JSON number. -/
inductive Json.Number where
  /-- An integer. -/
  | integer (value : Int)
  /-- A number of double precision. -/
  | float (value : Binary64)
deriving DecidableEq

/-- A JSON value. -/
inductive Json where
  | null
  | bool (value : Bool)
  | number (value : Json.Number)
  | string (text : String)
  | array (items : List Json)
  | object (members : List (String × Json))

namespace Json

instance : Inhabited Json := ⟨null⟩

/-- A natural number as a value. -/
def ofNat (value : Nat) : Json := .number (.integer value)

/-- A text, or null where there is none. -/
def ofText? : Option String → Json
  | some text => .string text
  | none => .null

/-- The text of a string. -/
def text? : Json → Option String
  | .string text => some text
  | _ => none

/-- The items of an array. -/
def items? : Json → Option (List Json)
  | .array items => some items
  | _ => none

/-- The members of an object. -/
def members? : Json → Option (List (String × Json))
  | .object members => some members
  | _ => none

/-- The value of a member of an object. -/
def member? (value : Json) (name : String) : Option Json :=
  match value with
  | .object members => Entries.lookup name members
  | _ => none

/-- Whether a value has nothing below it: a scalar, null, or an empty container. -/
def isLeaf : Json → Bool
  | .array (_ :: _) => false
  | .object (_ :: _) => false
  | _ => true

mutual
/-- The value with the members of all its objects in byte order, each name once. -/
def ordered : Json → Json
  | .array items => .array (orderedItems items)
  | .object members => .object (orderedMembers [] members)
  | .null => .null
  | .bool value => .bool value
  | .number value => .number value
  | .string text => .string text

/-- Every item in order. -/
def orderedItems : List Json → List Json
  | [] => []
  | item :: rest => ordered item :: orderedItems rest

/-- Members written one after the other into a list in byte order. -/
def orderedMembers (held : List (String × Json)) : List (String × Json) → List (String × Json)
  | [] => held
  | (name, value) :: rest => orderedMembers (Entries.put name (ordered value) held) rest
end

mutual
/-- Every object below and at this value has its members in strictly ascending byte order. -/
def InOrder : Json → Prop
  | .array items => ItemsInOrder items
  | .object members => Entries.Ascending members ∧ MembersInOrder members
  | _ => True

/-- Every item is in order. -/
def ItemsInOrder : List Json → Prop
  | [] => True
  | item :: rest => InOrder item ∧ ItemsInOrder rest

/-- Every member's value is in order. -/
def MembersInOrder : List (String × Json) → Prop
  | [] => True
  | (_, value) :: rest => InOrder value ∧ MembersInOrder rest
end

end Json

end RealmConvergence
