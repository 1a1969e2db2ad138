import RealmConvergence.Http.Percent

/-!
# Forms

Named values in a query or in the body of a request: a name and a value with an equals sign between
them, and an ampersand between two of them. A space is written as a plus sign.
-/

set_option autoImplicit false

namespace RealmConvergence.Http.Form

/-- Whether a character stands in a form as it is. -/
def mayStand (character : Char) : Bool :=
  character.isAlphanum || ['*', '-', '.', '_'].contains character

/-- One character of a name or a value. -/
def encodeChar (character : Char) : List Char :=
  if character = ' ' then ['+'] else Percent.encodeChar mayStand character

/-- A name or a value. -/
def encodePart (text : String) : String :=
  String.ofList (text.toList.flatMap encodeChar)

/-- Named values. -/
def encode (fields : List (String × String)) : String :=
  "&".intercalate (fields.map fun field => encodePart field.1 ++ "=" ++ encodePart field.2)

end RealmConvergence.Http.Form
