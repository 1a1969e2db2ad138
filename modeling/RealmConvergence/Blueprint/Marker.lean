import RealmConvergence.Blueprint.Basic
import RealmConvergence.Text.Blank

/-!
# The marker of a finished run

The marker reads as set when its value is the word `true`, in any mixture of capitals and with
blanks around it.
-/

set_option autoImplicit false

namespace RealmConvergence

/-- Whether a value of the marker attribute reads as set. -/
def markerIsSet (value : Option String) : Bool :=
  match value with
  | some text => (Text.trimChars text.toList).map Char.toLower == ['t', 'r', 'u', 'e']
  | none => false

end RealmConvergence
