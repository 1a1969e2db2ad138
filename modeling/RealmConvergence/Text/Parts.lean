/-!
# Texts in parts

A text falls into the parts that stand between separators. Before the first separator and after the
last one there is a part too, so there is always one part more than there are separators.
-/

set_option autoImplicit false

namespace RealmConvergence.Text

/-- The parts of a text between separators. -/
def partsBetween (isSeparator : Char → Bool) : List Char → List (List Char)
  | [] => [[]]
  | character :: rest =>
    if isSeparator character then [] :: partsBetween isSeparator rest
    else
      match partsBetween isSeparator rest with
      | [] => [[character]]
      | first :: others => (character :: first) :: others

/-- The parts of a text between spaces. -/
def words (text : String) : List (List Char) := partsBetween (· == ' ') text.toList

end RealmConvergence.Text
