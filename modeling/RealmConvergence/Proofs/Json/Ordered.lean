import RealmConvergence.Json.Basic
import RealmConvergence.Proofs.Collection.Table

/-!
# Values up to the order of members

Bringing a value into order writes the members of its objects one after the other
(`Json.ordered_object`). So objects with the same members up to order, of which those with one name
have one value, are one value in order (`Json.ordered_object_congr`).

Lists of entries need not be in order to be read. An entry whose name stands once is what is found
under it, and entries of other names can be left out.
-/

set_option autoImplicit false

namespace RealmConvergence

namespace Entries

variable {α β : Type}

/-! ## Lookups in lists without order -/

/-- Where no name stands twice, an entry is found under its name. -/
theorem lookup_of_nodup {entries : Entries α} (distinct : (entries.map Prod.fst).Nodup)
    {name : String} {value : α} (member : (name, value) ∈ entries) :
    lookup name entries = some value := by
  induction entries with
  | nil => cases member
  | cons first rest ih =>
      obtain ⟨other, held⟩ := first
      obtain ⟨notLater, restDistinct⟩ := List.nodup_cons.1 distinct
      rw [lookup_cons]
      rcases List.mem_cons.1 member with here | later
      · cases here
        rw [if_pos rfl]
      · have different : name ≠ other := by
          rintro rfl
          exact notLater (List.mem_map.2 ⟨_, later, rfl⟩)
        rw [if_neg different]
        exact ih restDistinct later

theorem agree_of_nodup {entries : Entries α} (distinct : (entries.map Prod.fst).Nodup) :
    Agree entries := by
  intro name value other here there
  have found := lookup_of_nodup distinct here
  rw [lookup_of_nodup distinct there] at found
  exact (Option.some.inj found).symm

/-- Leaving entries of other names out does not touch what is found under a name. -/
theorem lookup_filter_name (entries : Entries α) {keep : String → Bool} {name : String}
    (kept : keep name = true) :
    lookup name (entries.filter fun entry => keep entry.1) = lookup name entries := by
  induction entries with
  | nil => rfl
  | cons first rest ih =>
      obtain ⟨other, held⟩ := first
      rw [List.filter_cons, lookup_cons, ← ih]
      by_cases same : name = other
      · subst same
        rw [if_pos kept, lookup_cons, if_pos rfl]
      · rw [if_neg same]
        split
        · rw [lookup_cons, if_neg same]
        · rfl

/-- An entry between others is found under its name, unless its name stands before it, and nothing
else is found there. -/
theorem lookup_middle {before : Entries α} {name : String}
    (notBefore : ∀ entry ∈ before, entry.1 ≠ name) (value : α) (after : Entries α)
    (wanted : String) :
    lookup wanted (before ++ (name, value) :: after) =
      if wanted = name then some value else lookup wanted (before ++ after) := by
  induction before with
  | nil => rfl
  | cons first rest ih =>
      obtain ⟨other, held⟩ := first
      obtain ⟨different, later⟩ := List.forall_mem_cons.1 notBefore
      rw [List.cons_append, List.cons_append, lookup_cons, lookup_cons, ih later]
      split
      · next same => rw [if_neg fun isName => different (same.symm.trans isName)]
      · rfl

/-! ## Writing lists without order -/

/-- Lists with the same entries write the same, if the entries agree. -/
theorem Agree.putAll_eq {one other : Entries α} (agree : Agree one)
    (same : ∀ entry, entry ∈ one ↔ entry ∈ other) : putAll one [] = putAll other [] := by
  refine eq_of_lookup_eq (ascending_putAll _ ascending_nil) (ascending_putAll _ ascending_nil)
    fun name => ?_
  have otherAgree : Agree other := fun name value found here there =>
    agree name value found ((same _).2 here) ((same _).2 there)
  apply Option.ext
  intro value
  constructor
  · intro found
    rcases mem_or_lookup_of_putAll found with written | held
    · exact otherAgree.lookup_putAll ((same _).1 written)
    · cases held
  · intro found
    rcases mem_or_lookup_of_putAll found with written | held
    · exact agree.lookup_putAll ((same _).2 written)
    · cases held

/-- An ascending list is written as it is. -/
theorem Ascending.putAll_eq {entries : Entries α} (ordered : Ascending entries) :
    putAll entries [] = entries := by
  refine eq_of_lookup_eq (ascending_putAll _ ascending_nil) ordered fun name => ?_
  rw [lookup_putAll ordered, lookup_nil, Option.or_none]

/-- Entries with other values under the same names. -/
def mapValues (f : α → β) (entries : Entries α) : Entries β :=
  entries.map fun entry => (entry.1, f entry.2)

theorem mem_mapValues_iff {f : α → β} {entries : Entries α} {name : String} {value : β} :
    (name, value) ∈ mapValues f entries ↔ ∃ held, (name, held) ∈ entries ∧ f held = value := by
  rw [mapValues, List.mem_map]
  constructor
  · rintro ⟨⟨_, held⟩, member, same⟩
    cases same
    exact ⟨held, member, rfl⟩
  · rintro ⟨held, member, rfl⟩
    exact ⟨_, member, rfl⟩

theorem map_fst_mapValues (f : α → β) (entries : Entries α) :
    (mapValues f entries).map Prod.fst = entries.map Prod.fst := by
  simp [mapValues]

theorem mapValues_put (f : α → β) (name : String) (value : α) (entries : Entries α) :
    mapValues f (put name value entries) = put name (f value) (mapValues f entries) := by
  induction entries with
  | nil => rfl
  | cons first rest ih =>
      obtain ⟨other, held⟩ := first
      show mapValues f (put name value ((other, held) :: rest)) =
        put name (f value) ((other, f held) :: mapValues f rest)
      unfold put
      split
      · rfl
      · split
        · rfl
        · rw [← ih]
          rfl

theorem mapValues_putAll (f : α → β) (added entries : Entries α) :
    mapValues f (putAll added entries) = putAll (mapValues f added) (mapValues f entries) := by
  induction added generalizing entries with
  | nil => rfl
  | cons entry rest ih => exact (ih _).trans (congrArg _ (mapValues_put f _ _ _))

end Entries

namespace Json

/-! ## Objects in order -/

theorem orderedMembers_eq (held members : Entries Json) :
    orderedMembers held members = Entries.putAll (Entries.mapValues ordered members) held := by
  induction members generalizing held with
  | nil => rw [orderedMembers]; rfl
  | cons member rest ih => rw [orderedMembers, ih]; rfl

/-- The members of an object in order are written one after the other. -/
theorem ordered_object (members : Entries Json) :
    (object members).ordered =
      .object (Entries.putAll (Entries.mapValues ordered members) []) := by
  rw [ordered, orderedMembers_eq]

/-- **Objects with the same members up to order are one value in order**, if members with one name
have one value. -/
theorem ordered_object_congr {one other : Entries Json}
    (agree : Entries.Agree (Entries.mapValues ordered one))
    (same : ∀ member, member ∈ Entries.mapValues ordered one ↔
      member ∈ Entries.mapValues ordered other) :
    (object one).ordered = (object other).ordered := by
  rw [ordered_object, ordered_object, agree.putAll_eq same]

/-- Only null is null in order. -/
theorem eq_null_of_ordered {value : Json} (isNull : value.ordered = .null) : value = .null := by
  cases value with
  | null => rfl
  | _ =>
      rw [ordered] at isNull
      cases isNull

end Json

end RealmConvergence
