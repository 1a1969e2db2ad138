import RealmConvergence.Collection.Entries

/-!
# Tables

A table holds at most one value per name and is read in the byte order of its names. Two tables are
equal exactly when every name holds the same value in both (`Table.ext_get?`).
-/

set_option autoImplicit false

namespace RealmConvergence

/-- Values under distinct names, in the byte order of the names. -/
structure Table (α : Type) where
  /-- The names with their values, in order. -/
  toList : Entries α
  /-- Names ascend strictly. -/
  ascending : Entries.Ascending toList
deriving DecidableEq

namespace Table

variable {α β : Type}

/-- The table without entries. -/
def empty : Table α := ⟨[], Entries.ascending_nil⟩

instance : EmptyCollection (Table α) := ⟨empty⟩
instance : Inhabited (Table α) := ⟨empty⟩

/-- The value under a name. -/
def get? (table : Table α) (name : String) : Option α :=
  Entries.lookup name table.toList

/-- Write a value under a name. -/
def insert (table : Table α) (name : String) (value : α) : Table α :=
  ⟨Entries.put name value table.toList, Entries.ascending_put name value table.ascending⟩

/-- Write a list of entries in turn; of two entries with one name the later wins. -/
def insertAll (table : Table α) (entries : Entries α) : Table α :=
  ⟨Entries.putAll entries table.toList, Entries.ascending_putAll entries table.ascending⟩

/-- The table of a list of entries; of two entries with one name the later wins. -/
def ofList (entries : Entries α) : Table α :=
  empty.insertAll entries

/-- The entries of both tables, those of `added` winning. -/
def override (table added : Table α) : Table α :=
  table.insertAll added.toList

/-- The entries that pass a test. -/
def filter (table : Table α) (keep : String → α → Bool) : Table α :=
  ⟨table.toList.filter fun entry => keep entry.1 entry.2,
    Entries.ascending_filter _ table.ascending⟩

/-- Whether a name holds a value. -/
def contains (table : Table α) (name : String) : Bool :=
  (table.get? name).isSome

/-- The names, in order. -/
def names (table : Table α) : List String :=
  table.toList.map Prod.fst

/-- The values, in the order of their names. -/
def values (table : Table α) : List α :=
  table.toList.map Prod.snd

/-- Whether there is no entry. -/
def isEmpty (table : Table α) : Bool :=
  table.toList.isEmpty

/-- The first entry in the order of the names that passes a test. -/
def find? (table : Table α) (wanted : String → α → Bool) : Option (String × α) :=
  table.toList.find? fun entry => wanted entry.1 entry.2

/-! ## Laws -/

@[simp] theorem get?_empty (name : String) : (empty : Table α).get? name = none := rfl

/-- Writing a name changes what that name holds, and nothing else. -/
theorem get?_insert (table : Table α) (name other : String) (value : α) :
    (table.insert name value).get? other = if other = name then some value else table.get? other :=
  Entries.lookup_put name other value table.toList

@[simp] theorem get?_insert_self (table : Table α) (name : String) (value : α) :
    (table.insert name value).get? name = some value := by
  simp [get?_insert]

/-- Equal lookups make equal tables. -/
theorem ext_get? {left right : Table α} (same : ∀ name, left.get? name = right.get? name) :
    left = right := by
  obtain ⟨leftEntries, leftOrdered⟩ := left
  obtain ⟨rightEntries, rightOrdered⟩ := right
  have equal := Entries.eq_of_lookup_eq leftOrdered rightOrdered same
  subst equal
  rfl

end Table

end RealmConvergence
