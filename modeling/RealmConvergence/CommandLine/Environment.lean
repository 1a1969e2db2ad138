import RealmConvergence.Collection.Table

/-!
# The environment

An environment holds variables, each as its name, an equals sign and its value in one text. A name
is looked up in these texts: it finds what follows where a text starts with the name and an equals
sign. A name that has an equals sign itself can therefore be found in the value of a shorter one.
-/

set_option autoImplicit false

namespace RealmConvergence.CommandLine

/-- The variables of a run, by name. -/
abbrev Environment := Table String

namespace Environment

/-- What follows a start of a text, if the text has it. -/
def after? (start text : List Char) : Option (List Char) :=
  if start.isPrefixOf text then some (text.drop start.length) else none

/-- The value that a name with an equals sign in it finds in the variable before that sign. -/
def withinValue? (environment : Environment) (name : String) : Option String :=
  match name.toList.dropWhile (· ≠ '=') with
  | '=' :: start => do
    let value ← environment.get? (String.ofList (name.toList.takeWhile (· ≠ '=')))
    (after? (start ++ ['=']) value.toList).map String.ofList
  | _ => none

/-- The value that a name finds. -/
def value? (environment : Environment) (name : String) : Option String :=
  (environment.get? name).or (environment.withinValue? name)

/-- A text without an equals sign has nothing from such a sign on. -/
theorem dropWhile_eq_nil {text : List Char} (plain : '=' ∉ text) :
    text.dropWhile (· ≠ '=') = [] := by
  induction text with
  | nil => rfl
  | cons character rest ih =>
    have other : character ≠ '=' := fun same => plain (same ▸ List.mem_cons_self)
    rw [List.dropWhile_cons_of_pos (by simpa using other)]
    exact ih fun member => plain (List.mem_cons_of_mem _ member)

/-- A name without an equals sign finds the value of its own variable alone. -/
theorem value?_eq_get? (environment : Environment) {name : String} (plain : '=' ∉ name.toList) :
    environment.value? name = environment.get? name := by
  have nowhere : environment.withinValue? name = none := by
    unfold withinValue?
    rw [dropWhile_eq_nil plain]
  rw [value?, nowhere, Option.or_none]

end Environment

end RealmConvergence.CommandLine
