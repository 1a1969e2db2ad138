import Mathlib.Data.List.DropRight
import RealmConvergence.Text.Blank

/-!
# Trimmed texts

Trimming a text a second time changes nothing (`trim_trim`), and a text of blanks alone is what
trimming makes empty (`isEmpty_trim`). The text that is left, where one is left, is `trimmed?`.
-/

set_option autoImplicit false

namespace RealmConvergence.Text

/-- Blanks dropped from the end do not bring blanks to the front. -/
theorem dropWhile_trimChars (characters : List Char) :
    (trimChars characters).dropWhile isBlank = trimChars characters := by
  cases left : trimChars characters with
  | nil => rfl
  | cons first rest =>
      obtain ⟨dropped, split⟩ := List.rdropWhile_prefix isBlank (l := characters.dropWhile isBlank)
      have front : characters.dropWhile isBlank = first :: (rest ++ dropped) := by
        rw [← split]
        exact congrArg (· ++ dropped) left
      have shown := List.head?_dropWhile_not isBlank characters
      rw [front] at shown
      exact List.dropWhile_cons_of_neg (by simpa using shown)

theorem trimChars_trimChars (characters : List Char) :
    trimChars (trimChars characters) = trimChars characters := by
  rw [trimChars, dropWhile_trimChars]
  exact List.rdropWhile_idempotent isBlank (characters.dropWhile isBlank)

/-- A trimmed text has nothing to trim. -/
theorem trim_trim (text : String) : trim (trim text) = trim text := by
  simp only [trim, String.toList_ofList, trimChars_trimChars]

/-- Trimming leaves nothing exactly when there are only blanks. -/
theorem isEmpty_trim (text : String) : (trim text).isEmpty = allBlank text := by
  rw [Bool.eq_iff_iff, String.isEmpty_iff, allBlank, ← trimChars_eq_nil_iff, trim]
  exact String.ofList_eq_empty_iff

/-- The text without the blanks around it, where something is left. -/
def trimmed? (text : String) : Option String :=
  let trimmed := trim text
  if trimmed.isEmpty then none else some trimmed

/-- Something is left of every text that is not blank. -/
theorem trimmed?_eq_some_iff {text name : String} :
    trimmed? text = some name ↔ allBlank text = false ∧ trim text = name := by
  simp only [trimmed?, isEmpty_trim]
  cases allBlank text <;> simp

end RealmConvergence.Text
