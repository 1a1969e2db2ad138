/-!
# Entries in key order

A list of named values, kept in the byte order of its names, is the plain form of every table in
this library: realm attributes, the stores of the identity service, and the members of a JSON
object. This module gives the operations on such lists and their laws.

**Looking up.** `lookup_put` says that writing a name changes what that name holds and nothing
else, and needs no order.

**Order.** `ascending_put` keeps the names strictly ascending, and two ascending lists with the same
lookups are the same list (`eq_of_lookup_eq`).
-/

set_option autoImplicit false

namespace RealmConvergence

/-- Named values, in a list. -/
abbrev Entries (α : Type) := List (String × α)

namespace Entries

variable {α : Type}

/-- The value held under a name. -/
def lookup (name : String) : Entries α → Option α
  | [] => none
  | (other, value) :: rest => if name = other then some value else lookup name rest

/-- Write a value under a name, in its place in the order. -/
def put (name : String) (value : α) : Entries α → Entries α
  | [] => [(name, value)]
  | (other, held) :: rest =>
    if name < other then (name, value) :: (other, held) :: rest
    else if name = other then (name, value) :: rest
    else (other, held) :: put name value rest

/-- Write a list of entries one after the other: of two entries with one name the later wins. -/
def putAll (added entries : Entries α) : Entries α :=
  added.foldl (fun held entry => put entry.1 entry.2 held) entries

/-- The names are strictly ascending, hence distinct. -/
def Ascending (entries : Entries α) : Prop :=
  entries.Pairwise fun left right => left.1 < right.1

/-! ## Looking up -/

@[simp] theorem lookup_nil (name : String) : lookup name ([] : Entries α) = none := rfl

theorem lookup_cons (name other : String) (value : α) (rest : Entries α) :
    lookup name ((other, value) :: rest) = if name = other then some value else lookup name rest :=
  rfl

/-- Writing a name changes what that name holds, and nothing else. -/
theorem lookup_put (name other : String) (value : α) (entries : Entries α) :
    lookup other (put name value entries) =
      if other = name then some value else lookup other entries := by
  induction entries with
  | nil => rfl
  | cons entry rest ih =>
    obtain ⟨head, held⟩ := entry
    unfold put
    split
    · rfl
    · split
      · next same => subst same; simp only [lookup_cons]; split <;> simp_all
      · simp only [lookup_cons, ih]; split <;> split <;> simp_all

@[simp] theorem lookup_put_self (name : String) (value : α) (entries : Entries α) :
    lookup name (put name value entries) = some value := by
  simp [lookup_put]

/-- A name that holds a value is the name of an entry. -/
theorem mem_of_lookup {name : String} {value : α} {entries : Entries α}
    (held : lookup name entries = some value) : (name, value) ∈ entries := by
  induction entries with
  | nil => simp at held
  | cons entry rest ih =>
    obtain ⟨head, headValue⟩ := entry
    rw [lookup_cons] at held
    split at held
    · next same => subst same; cases held; exact List.mem_cons_self
    · exact List.mem_cons_of_mem _ (ih held)

/-! ## Order -/

theorem ascending_nil : Ascending ([] : Entries α) := List.Pairwise.nil

/-- The names of a written list are the written name and those it had. -/
theorem mem_put {name : String} {value : α} {entry : String × α} {entries : Entries α}
    (member : entry ∈ put name value entries) : entry = (name, value) ∨ entry ∈ entries := by
  induction entries with
  | nil => simpa [put] using member
  | cons head rest ih =>
    obtain ⟨other, held⟩ := head
    unfold put at member
    split at member
    · simpa using member
    · split at member
      · simp only [List.mem_cons] at member ⊢
        exact member.imp_right .inr
      · simp only [List.mem_cons] at member ⊢
        rcases member with same | later
        · exact .inr (.inl same)
        · exact (ih later).imp_right .inr

/-- Of two names that are neither before the other nor equal, the second comes first. -/
theorem lt_of_not_lt_of_ne {left right : String} (notBefore : ¬left < right)
    (different : left ≠ right) : right < left := by
  by_cases before : right < left
  · exact before
  · exact absurd (String.le_antisymm (String.not_lt.1 before) (String.not_lt.1 notBefore)) different

theorem ascending_put (name : String) (value : α) {entries : Entries α}
    (ordered : Ascending entries) : Ascending (put name value entries) := by
  induction entries with
  | nil => exact List.pairwise_singleton _ _
  | cons head rest ih =>
    obtain ⟨other, held⟩ := head
    obtain ⟨first, restOrdered⟩ := List.pairwise_cons.1 ordered
    unfold put
    split
    · next before =>
      refine List.pairwise_cons.2 ⟨fun entry member => ?_, ordered⟩
      rcases List.mem_cons.1 member with same | later
      · subst same; exact before
      · exact String.lt_trans before (first entry later)
    · split
      · next same => subst same; exact List.pairwise_cons.2 ⟨first, restOrdered⟩
      · next notBefore different =>
        refine List.pairwise_cons.2 ⟨fun entry member => ?_, ih restOrdered⟩
        rcases mem_put member with same | later
        · subst same; exact lt_of_not_lt_of_ne notBefore different
        · exact first entry later

theorem ascending_putAll (added : Entries α) {entries : Entries α} (ordered : Ascending entries) :
    Ascending (putAll added entries) := by
  induction added generalizing entries with
  | nil => exact ordered
  | cons entry rest ih => exact ih (ascending_put entry.1 entry.2 ordered)

theorem ascending_filter (keep : String × α → Bool) {entries : Entries α}
    (ordered : Ascending entries) : Ascending (entries.filter keep) :=
  List.Pairwise.filter keep ordered

/-- A name before all names of a list holds nothing there. -/
theorem lookup_eq_none_of_lt {name : String} {entries : Entries α}
    (before : ∀ entry ∈ entries, name < entry.1) : lookup name entries = none := by
  induction entries with
  | nil => rfl
  | cons head rest ih =>
    have ahead := before head List.mem_cons_self
    rw [lookup, if_neg (fun same => String.lt_irrefl _ (same ▸ ahead))]
    exact ih fun entry member => before entry (List.mem_cons_of_mem _ member)

/-- A name before the first name of an ascending list holds nothing there. -/
theorem Ascending.lookup_eq_none {name first : String} {value : α} {rest : Entries α}
    (ordered : Ascending ((first, value) :: rest)) (before : name < first) :
    lookup name ((first, value) :: rest) = none := by
  refine lookup_eq_none_of_lt fun entry member => ?_
  rcases List.mem_cons.1 member with here | later
  · subst here; exact before
  · exact String.lt_trans before ((List.pairwise_cons.1 ordered).1 entry later)

/-- Ascending lists are told apart by some lookup. -/
theorem eq_of_lookup_eq {left right : Entries α} (leftOrdered : Ascending left)
    (rightOrdered : Ascending right) (same : ∀ name, lookup name left = lookup name right) :
    left = right := by
  induction left generalizing right with
  | nil =>
    match right with
    | [] => rfl
    | (name, value) :: rest => simpa [lookup_cons] using same name
  | cons head rest ih =>
    obtain ⟨name, value⟩ := head
    match right with
    | [] => simpa [lookup_cons] using same name
    | (other, held) :: others =>
      obtain ⟨leftFirst, leftRest⟩ := List.pairwise_cons.1 leftOrdered
      obtain ⟨rightFirst, rightRest⟩ := List.pairwise_cons.1 rightOrdered
      have sameName : name = other := by
        by_cases earlier : name < other
        · have present := same name
          rw [rightOrdered.lookup_eq_none earlier] at present
          simp [lookup_cons] at present
        · by_cases equal : name = other
          · exact equal
          · have present := same other
            rw [leftOrdered.lookup_eq_none (lt_of_not_lt_of_ne earlier equal)] at present
            simp [lookup_cons] at present
      subst sameName
      have sameValue : value = held := by simpa [lookup_cons] using same name
      subst sameValue
      congr 1
      refine ih leftRest rightRest fun wanted => ?_
      by_cases here : wanted = name
      · subst here
        rw [lookup_eq_none_of_lt leftFirst, lookup_eq_none_of_lt rightFirst]
      · simpa [lookup_cons, here] using same wanted

end Entries

end RealmConvergence
