/-!
# Blank characters

Names, variable values and marker values are read without the blank characters around them, and a
text of blank characters alone counts as empty. Blank means the `White_Space` property of Unicode.
-/

set_option autoImplicit false

namespace RealmConvergence.Text

/-- Whether a character has the Unicode property `White_Space`. -/
def isBlank (character : Char) : Bool :=
  let code := character.toNat
  (0x09 ≤ code && code ≤ 0x0D) || code == 0x20 || code == 0x85 || code == 0xA0 || code == 0x1680 ||
    (0x2000 ≤ code && code ≤ 0x200A) || code == 0x2028 || code == 0x2029 || code == 0x202F ||
    code == 0x205F || code == 0x3000

/-- A list of characters without the blanks at its end. -/
def trimEndChars (characters : List Char) : List Char :=
  (characters.reverse.dropWhile isBlank).reverse

/-- A list of characters without the blanks around it. -/
def trimChars (characters : List Char) : List Char :=
  trimEndChars (characters.dropWhile isBlank)

/-- A text without the blanks around it. -/
def trim (text : String) : String :=
  String.ofList (trimChars text.toList)

/-- Whether nothing but blanks stands in a text. -/
def allBlank (text : String) : Bool :=
  text.toList.all isBlank

/-! ## Laws -/

/-- Dropping blanks from the front leaves nothing exactly when there are only blanks. -/
theorem dropWhile_isBlank_eq_nil_iff (characters : List Char) :
    characters.dropWhile isBlank = [] ↔ characters.all isBlank = true := by
  induction characters with
  | nil => simp
  | cons head rest ih => by_cases blank : isBlank head <;> simp [blank, ih]

/-- Trimming leaves nothing exactly when there are only blanks. -/
theorem trimChars_eq_nil_iff (characters : List Char) :
    trimChars characters = [] ↔ characters.all isBlank = true := by
  unfold trimChars trimEndChars
  rw [List.reverse_eq_nil_iff, dropWhile_isBlank_eq_nil_iff, List.all_reverse]
  induction characters with
  | nil => simp
  | cons head rest ih =>
    by_cases blank : isBlank head
    · simpa [List.dropWhile_cons, blank] using ih
    · simp [blank]

end RealmConvergence.Text
