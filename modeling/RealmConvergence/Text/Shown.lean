import RealmConvergence.Text.Quoted

/-!
# Shown values

A configuration or a remote resource is shown on one line: records with their field names, lists in
brackets, sets and tables in braces, texts in quotes. What must not be seen is left out while the
value is turned into its shown form, so `Shown.render` never meets a secret.
-/

set_option autoImplicit false

namespace RealmConvergence

/-- The shown form of a value. -/
inductive Shown where
  /-- A word that stands as it is: a number, a truth value or the name of a case. -/
  | word (symbol : String)
  /-- A text between quotes. -/
  | text (content : String)
  /-- Values in brackets. -/
  | list (items : List Shown)
  /-- Values in braces. -/
  | set (items : List Shown)
  /-- Values under keys, in braces. -/
  | table (entries : List (String × Shown))
  /-- A named case around one value. -/
  | wrapped (name : String) (content : Shown)
  /-- A record with its fields; `more` says that it has others that are not shown. -/
  | record (name : String) (fields : List (String × Shown)) (more : Bool)

namespace Shown

/-- A truth value. -/
def ofBool (value : Bool) : Shown :=
  .word (if value then "true" else "false")

/-- A value that may be missing. -/
def ofOption {α : Type} (shown : α → Shown) : Option α → Shown
  | none => .word "None"
  | some value => .wrapped "Some" (shown value)

/-- Texts in brackets. -/
def ofTexts (texts : List String) : Shown :=
  .list (texts.map .text)

/-- What stands in the place of a secret. -/
def redacted : Shown :=
  .text "<REDACTED>"

mutual
/-- A shown value on one line. -/
def render : Shown → String
  | .word symbol => symbol
  | .text content => Text.quoted content
  | .list items => "[" ++ ", ".intercalate (renderItems items) ++ "]"
  | .set items => "\x7b" ++ ", ".intercalate (renderItems items) ++ "\x7d"
  | .table entries => "\x7b" ++ ", ".intercalate (renderEntries entries) ++ "\x7d"
  | .wrapped name content => name ++ "(" ++ render content ++ ")"
  | .record name fields more =>
    let shownFields := renderFields fields ++ if more then [".."] else []
    if shownFields.isEmpty then name
    else name ++ " \x7b " ++ ", ".intercalate shownFields ++ " \x7d"

/-- The values of a list, each on one line. -/
def renderItems : List Shown → List String
  | [] => []
  | item :: rest => render item :: renderItems rest

/-- The entries of a table, each with its key in quotes. -/
def renderEntries : List (String × Shown) → List String
  | [] => []
  | (key, value) :: rest => (Text.quoted key ++ ": " ++ render value) :: renderEntries rest

/-- The fields of a record, each with its name. -/
def renderFields : List (String × Shown) → List String
  | [] => []
  | (name, value) :: rest => (name ++ ": " ++ render value) :: renderFields rest
end

end Shown

end RealmConvergence
