import RealmConvergence.Collection.NameSet

/-!
# Lookups in tables and sets of names

A table is known by its lookups. This module says what each operation does to them: an entry is held
under its name and under no other (`Table.mem_toList_iff`), overriding takes the added value where
there is one (`Table.get?_override`), and a search by content is not disturbed by writing an entry
that it does not want (`Table.find?_insert_of_unwanted`). It does not matter in which order entries
are written exactly if those with one name have one value (`Entries.agree_iff_putAll_perm`).

A set of names is known by its members; listing a set and reading the list gives the set back
(`NameSet.ofList_toList`). Where sets of names stand in a table, adding to one of them changes no
other (`contains_insert_insertAll_iff`).
-/

set_option autoImplicit false

namespace RealmConvergence

namespace Entries

variable {α : Type}

/-- In an ascending list the entries are the lookups. -/
theorem Ascending.mem_iff {entries : Entries α} (ordered : Ascending entries) {name : String}
    {value : α} : (name, value) ∈ entries ↔ lookup name entries = some value := by
  refine ⟨fun member => ?_, mem_of_lookup⟩
  induction entries with
  | nil => cases member
  | cons head rest ih =>
      obtain ⟨first, restOrdered⟩ := List.pairwise_cons.1 ordered
      rcases List.mem_cons.1 member with here | later
      · subst here
        simp only [lookup_cons, if_pos]
      · have ahead : head.1 < name := first _ later
        have different : name ≠ head.1 := fun same => String.lt_irrefl _ (same ▸ ahead)
        obtain ⟨other, held⟩ := head
        rw [lookup_cons, if_neg different]
        exact ih restOrdered later

/-- Writing an ascending list over another, the written values win. -/
theorem lookup_putAll {added : Entries α} (ordered : Ascending added) (entries : Entries α)
    (name : String) :
    lookup name (putAll added entries) = (lookup name added).or (lookup name entries) := by
  induction added generalizing entries with
  | nil => rfl
  | cons head rest ih =>
      obtain ⟨other, value⟩ := head
      obtain ⟨first, restOrdered⟩ := List.pairwise_cons.1 ordered
      show lookup name (putAll rest (put other value entries)) = _
      rw [ih restOrdered, lookup_put, lookup_cons]
      by_cases same : name = other
      · subst same
        have absent : lookup name rest = none := lookup_eq_none_of_lt first
        rw [absent, if_pos rfl, if_pos rfl, Option.none_or, Option.some_or]
      · rw [if_neg same, if_neg same]

/-- A value found after writing a list was written, or was there before. -/
theorem mem_or_lookup_of_putAll {added entries : Entries α} {name : String} {value : α}
    (found : lookup name (putAll added entries) = some value) :
    (name, value) ∈ added ∨ lookup name entries = some value := by
  induction added generalizing entries with
  | nil => exact .inr found
  | cons head rest ih =>
      rcases ih found with later | earlier
      · exact .inl (List.mem_cons_of_mem _ later)
      · rw [lookup_put] at earlier
        split at earlier
        · next same =>
          cases earlier
          exact .inl (same ▸ List.mem_cons_self)
        · exact .inr earlier

/-- After writing a list, the written names and those held before hold a value. -/
theorem isSome_lookup_putAll_iff {added entries : Entries α} {name : String} :
    (lookup name (putAll added entries)).isSome ↔
      (∃ value, (name, value) ∈ added) ∨ (lookup name entries).isSome := by
  induction added generalizing entries with
  | nil => simp [putAll]
  | cons head rest ih =>
      obtain ⟨other, written⟩ := head
      show (lookup name (putAll rest (put other written entries))).isSome ↔ _
      rw [ih, lookup_put]
      by_cases same : name = other
      · simp [same]
      · simp [same]

/-- Keeping some entries of an ascending list keeps their lookups. -/
theorem lookup_filter {entries : Entries α} (ordered : Ascending entries)
    (keep : String → α → Bool) (name : String) :
    lookup name (entries.filter fun entry => keep entry.1 entry.2) =
      (lookup name entries).filter (keep name) := by
  apply Option.ext
  intro value
  rw [← (ascending_filter _ ordered).mem_iff, List.mem_filter, ordered.mem_iff,
    Option.filter_eq_some_iff]

/-! ## Entries in another order -/

/-- Entries with one name have one value. -/
def Agree (entries : Entries α) : Prop :=
  ∀ name value other, (name, value) ∈ entries → (name, other) ∈ entries → value = other

/-- Where entries agree, each can be read after all are written. -/
theorem Agree.lookup_putAll {added : Entries α} (agree : Agree added) {name : String} {value : α}
    (member : (name, value) ∈ added) : lookup name (putAll added []) = some value := by
  obtain ⟨found, there⟩ := Option.isSome_iff_exists.1
    (isSome_lookup_putAll_iff.2 (.inl ⟨value, member⟩) : (lookup name (putAll added [])).isSome)
  rcases mem_or_lookup_of_putAll there with written | held
  · rw [there, agree name value found member written]
  · cases held

/-- The last entry is the one that is read. -/
theorem lookup_putAll_append_singleton (entries : Entries α) (name : String) (value : α) :
    lookup name (putAll (entries ++ [(name, value)]) []) = some value := by
  rw [putAll, List.foldl_append]
  exact lookup_put_self _ _ _

/-- **Entries agree exactly if it does not matter in which order they are written.** -/
theorem agree_iff_putAll_perm {added : Entries α} :
    Agree added ↔ ∀ other : Entries α, added.Perm other → putAll other [] = putAll added [] := by
  constructor
  · intro agree other moves
    refine eq_of_lookup_eq (ascending_putAll _ ascending_nil) (ascending_putAll _ ascending_nil)
      fun name => ?_
    have movedAgree : Agree other := fun name value another here there =>
      agree name value another (moves.mem_iff.2 here) (moves.mem_iff.2 there)
    cases there : lookup name (putAll added []) with
    | some value =>
        rcases mem_or_lookup_of_putAll there with written | held
        · exact movedAgree.lookup_putAll (moves.mem_iff.1 written)
        · cases held
    | none =>
        refine Option.eq_none_iff_forall_ne_some.2 fun value found => ?_
        rcases mem_or_lookup_of_putAll found with written | held
        · cases there.symm.trans (agree.lookup_putAll (moves.mem_iff.2 written))
        · cases held
  · intro same name value other here there
    -- Whichever of two entries is moved to the end is the one that is read.
    have last {found : α} (member : (name, found) ∈ added) :
        lookup name (putAll added []) = some found := by
      obtain ⟨before, after, rfl⟩ := List.append_of_mem member
      rw [← same (before ++ after ++ [(name, found)])]
      · exact lookup_putAll_append_singleton _ _ _
      · rw [List.append_assoc]
        exact .append_left before (List.perm_append_singleton _ _).symm
    exact Option.some.inj ((last here).symm.trans (last there))

end Entries

namespace Table

variable {α : Type}

/-- The entries of a table are its lookups. -/
theorem mem_toList_iff {table : Table α} {name : String} {value : α} :
    (name, value) ∈ table.toList ↔ table.get? name = some value :=
  table.ascending.mem_iff

theorem mem_values_iff {table : Table α} {value : α} :
    value ∈ table.values ↔ ∃ name, table.get? name = some value := by
  simp only [values, List.mem_map, Prod.exists, mem_toList_iff, exists_eq_right]

/-- Of two tables written over each other, the added one wins. -/
theorem get?_override (table added : Table α) (name : String) :
    (table.override added).get? name = (added.get? name).or (table.get? name) :=
  Entries.lookup_putAll added.ascending table.toList name

theorem get?_filter (table : Table α) (keep : String → α → Bool) (name : String) :
    (table.filter keep).get? name = (table.get? name).filter (keep name) :=
  Entries.lookup_filter table.ascending keep name

/-- What a table made from a list holds stands in the list. -/
theorem mem_of_get?_ofList {entries : Entries α} {name : String} {value : α}
    (found : (ofList entries).get? name = some value) : (name, value) ∈ entries := by
  rcases Entries.mem_or_lookup_of_putAll found with member | earlier
  · exact member
  · cases earlier

/-- A table made from a list holds a value under the names of the list. -/
theorem isSome_get?_ofList_iff {entries : Entries α} {name : String} :
    ((ofList entries).get? name).isSome ↔ ∃ value, (name, value) ∈ entries := by
  refine Entries.isSome_lookup_putAll_iff.trans ⟨?_, .inl⟩
  rintro (written | nothing)
  · exact written
  · cases nothing

theorem contains_eq_isSome (table : Table α) (name : String) :
    table.contains name = (table.get? name).isSome := rfl

/-! ## Searching by content -/

/-- What a search finds is held under the found name and is wanted. -/
theorem get?_of_find? {table : Table α} {wanted : String → α → Bool} {name : String} {value : α}
    (found : table.find? wanted = some (name, value)) :
    table.get? name = some value ∧ wanted name value = true := by
  unfold find? at found
  have wants := List.find?_some found
  exact ⟨mem_toList_iff.1 (List.mem_of_find?_eq_some found), wants⟩

/-- A search that finds nothing wants no entry. -/
theorem unwanted_of_find?_eq_none {table : Table α} {wanted : String → α → Bool}
    (missing : table.find? wanted = none) {name : String} {value : α}
    (there : table.get? name = some value) : wanted name value = false := by
  have never := List.find?_eq_none.1 missing (name, value) (mem_toList_iff.2 there)
  exact Bool.not_eq_true _ ▸ never

end Table

namespace Entries

variable {α : Type} {wanted : String × α → Bool} {name : String} {value : α}

/-- Writing an unwanted entry, over nothing or over an unwanted one, leaves a search alone. -/
theorem find?_put_of_unwanted {entries : Entries α} (unwanted : wanted (name, value) = false)
    (before : ∀ old, (name, old) ∈ entries → wanted (name, old) = false) :
    (put name value entries).find? wanted = entries.find? wanted := by
  induction entries with
  | nil => simp only [put, List.find?_cons, unwanted, List.find?_nil]
  | cons head rest ih =>
      obtain ⟨other, held⟩ := head
      unfold put
      split
      · simp only [List.find?_cons (a := (name, value)), unwanted]
      · split
        · next same =>
          subst same
          have old := before held List.mem_cons_self
          simp only [List.find?_cons, unwanted, old]
        · have later := ih fun old member => before old (List.mem_cons_of_mem _ member)
          simp only [List.find?_cons, later]

/-- A search that found nothing finds a wanted entry as soon as it is written. -/
theorem find?_put_of_missing {entries : Entries α} (wants : wanted (name, value) = true)
    (missing : entries.find? wanted = none) :
    (put name value entries).find? wanted = some (name, value) := by
  induction entries with
  | nil => simp only [put, List.find?_cons, wants]
  | cons head rest ih =>
      obtain ⟨other, held⟩ := head
      rw [List.find?_cons] at missing
      split at missing
      · cases missing
      · next refused =>
        unfold put
        split
        · simp only [List.find?_cons, wants]
        · split
          · simp only [List.find?_cons, wants]
          · simp only [List.find?_cons, refused, ih missing]

/-- A search that found an entry finds what is written in its place, where that is wanted. -/
theorem find?_put_of_found {entries : Entries α} (ordered : Ascending entries) {old : α}
    (wants : wanted (name, value) = true) (found : entries.find? wanted = some (name, old)) :
    (put name value entries).find? wanted = some (name, value) := by
  induction entries with
  | nil => cases found
  | cons head rest ih =>
      obtain ⟨other, held⟩ := head
      obtain ⟨first, restOrdered⟩ := List.pairwise_cons.1 ordered
      rw [List.find?_cons] at found
      unfold put
      split at found
      · cases found
        simp only [String.lt_irrefl, if_false, if_true, List.find?_cons, wants]
      · next refused =>
        have ahead : other < name := first _ (List.mem_of_find?_eq_some found)
        have notBefore : ¬name < other := fun before =>
          String.lt_irrefl _ (String.lt_trans before ahead)
        have different : name ≠ other := fun same => String.lt_irrefl _ (same ▸ ahead)
        simp only [if_neg notBefore, if_neg different, List.find?_cons, refused,
          ih restOrdered found]

end Entries

namespace Table

variable {α : Type} {table : Table α} {wanted : String → α → Bool} {name : String} {value : α}

theorem find?_insert_of_unwanted (unwanted : wanted name value = false)
    (before : ∀ old, table.get? name = some old → wanted name old = false) :
    (table.insert name value).find? wanted = table.find? wanted :=
  Entries.find?_put_of_unwanted unwanted fun old member => before old (mem_toList_iff.1 member)

theorem find?_insert_of_missing (wants : wanted name value = true)
    (missing : table.find? wanted = none) :
    (table.insert name value).find? wanted = some (name, value) :=
  Entries.find?_put_of_missing wants missing

theorem find?_insert_of_found {old : α} (wants : wanted name value = true)
    (found : table.find? wanted = some (name, old)) :
    (table.insert name value).find? wanted = some (name, value) :=
  Entries.find?_put_of_found table.ascending wants found

end Table

namespace NameSet

theorem mem_toList_iff {names : NameSet} {name : String} :
    name ∈ names.toList ↔ names.contains name = true := by
  simp only [toList, Table.names, List.mem_map, Prod.exists, Table.mem_toList_iff, exists_eq_right,
    contains, Table.contains, Option.isSome_iff_exists, exists_and_right]

theorem isEmpty_eq_false_iff {names : NameSet} :
    names.isEmpty = false ↔ ∃ name, names.contains name = true := by
  simp only [← mem_toList_iff, ← List.isEmpty_eq_false_iff_exists_mem, toList, Table.names,
    List.isEmpty_map]
  rfl

/-- A set lists no name twice. -/
theorem toList_nodup (names : NameSet) : names.toList.Nodup := by
  rw [toList, Table.names, List.Nodup, List.pairwise_map]
  refine names.table.ascending.imp fun {one other} ahead same => ?_
  rw [same] at ahead
  exact String.lt_irrefl _ ahead

/-- Listing a set and reading the list gives the set back. -/
theorem ofList_toList (names : NameSet) : ofList names.toList = names := by
  apply ext_contains
  intro name
  rw [contains_ofList, Bool.eq_iff_iff, List.contains_iff_mem, mem_toList_iff]

theorem mem_missingFrom_iff {names other : NameSet} {name : String} :
    name ∈ names.missingFrom other ↔ names.contains name = true ∧ other.contains name = false := by
  simp only [missingFrom, List.mem_filter, mem_toList_iff, Bool.not_eq_true']

end NameSet

/-- When a set of names in a table grows, its members are the old ones and the added ones, and other
sets stay. -/
theorem contains_insert_insertAll_iff {sets : Table NameSet} {name other member : String}
    {added : List String} :
    (((sets.insert name (((sets.get? name).getD ∅).insertAll added)).get? other).getD ∅).contains
        member = true ↔
      ((sets.get? other).getD ∅).contains member = true ∨ (other = name ∧ member ∈ added) := by
  rw [Table.get?_insert]
  split
  · next same =>
    subst same
    rw [Option.getD_some, NameSet.contains_insertAll, Bool.or_eq_true, List.contains_iff_mem]
    constructor
    · rintro (isNew | old)
      · exact .inr ⟨rfl, isNew⟩
      · exact .inl old
    · rintro (old | ⟨-, isNew⟩)
      · exact .inr old
      · exact .inl isNew
  · next different =>
    constructor
    · exact .inl
    · rintro (old | ⟨same, -⟩)
      · exact old
      · exact absurd same different

end RealmConvergence
