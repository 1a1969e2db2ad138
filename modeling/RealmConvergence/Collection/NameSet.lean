import RealmConvergence.Collection.Table

/-!
# Sets of names

A set of names, read in byte order. Redirect addresses, web origins and the roles of a composite
mapping are compared as such sets, so order and repetition in their lists do not count.
-/

set_option autoImplicit false

namespace RealmConvergence

/-- Distinct names in byte order: a table that holds nothing but its names. -/
structure NameSet where
  /-- The table of the names. -/
  table : Table Unit
deriving DecidableEq

namespace NameSet

/-- The set without names. -/
def empty : NameSet := ⟨∅⟩

instance : EmptyCollection NameSet := ⟨empty⟩
instance : Inhabited NameSet := ⟨empty⟩

/-- Add a name. -/
def insert (names : NameSet) (name : String) : NameSet :=
  ⟨names.table.insert name ()⟩

/-- Add every name of a list. -/
def insertAll (names : NameSet) (added : List String) : NameSet :=
  added.foldl insert names

/-- The names of a list. -/
def ofList (names : List String) : NameSet :=
  empty.insertAll names

/-- Whether a name belongs to the set. -/
def contains (names : NameSet) (name : String) : Bool :=
  names.table.contains name

/-- The names, in order. -/
def toList (names : NameSet) : List String :=
  names.table.names

/-- Whether the set has no name. -/
def isEmpty (names : NameSet) : Bool :=
  names.table.isEmpty

/-- The names that another set lacks, in order. -/
def missingFrom (names other : NameSet) : List String :=
  names.toList.filter fun name => !other.contains name

/-! ## Laws -/

@[simp] theorem contains_empty (name : String) : empty.contains name = false := rfl

theorem contains_insert (names : NameSet) (name other : String) :
    (names.insert name).contains other = (other == name || names.contains other) := by
  by_cases same : other = name <;> simp [contains, insert, Table.contains, Table.get?_insert, same]

/-- A set holds the names of the list it was made from. -/
theorem contains_insertAll (names : NameSet) (added : List String) (name : String) :
    (names.insertAll added).contains name = (added.contains name || names.contains name) := by
  induction added generalizing names with
  | nil => simp [insertAll]
  | cons head rest ih =>
    have step := ih (names.insert head)
    simp only [insertAll, List.foldl_cons] at step ⊢
    rw [step, contains_insert, List.contains_cons]
    cases rest.contains name <;> cases (name == head) <;> simp

theorem contains_ofList (names : List String) (name : String) :
    (ofList names).contains name = names.contains name := by
  simp [ofList, contains_insertAll]

/-- Equal membership makes equal sets. -/
theorem ext_contains {left right : NameSet}
    (same : ∀ name, left.contains name = right.contains name) : left = right := by
  obtain ⟨leftTable⟩ := left
  obtain ⟨rightTable⟩ := right
  congr 1
  refine Table.ext_get? fun name => ?_
  have equal := same name
  simp only [contains, Table.contains] at equal
  cases leftHeld : leftTable.get? name <;> cases rightHeld : rightTable.get? name <;>
    simp_all

end NameSet

end RealmConvergence
