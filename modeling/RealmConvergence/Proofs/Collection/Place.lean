import Mathlib.Data.List.Forall2

/-!
# Places in lists

A place of an item in a list is what stands before the item and what stands after it. A place in
two lists after each other is a place in one of them (`append_eq_append_cons`), and a place in many
lists after each other is a place in one of these (`flatMap_eq_append_cons`). What holds of each
item, or of each two items in order, holds at each place (`forall_mem_iff_place`,
`pairwise_iff_place`).

Two lists may be related place by place. Every item of the one then has its counterpart in the
other (`exists_of_forall₂_of_mem`), and a list is related to some other if each of its items is
related to something (`exists_forall₂_iff`).
-/

set_option autoImplicit false

namespace RealmConvergence

variable {α β : Type}

/-- A place in one list followed by another lies in the one or in the other. -/
theorem append_eq_append_cons {first rest before after : List α} {item : α}
    (same : first ++ rest = before ++ item :: after) :
    (∃ more, first = before ++ item :: more ∧ after = more ++ rest) ∨
      ∃ less, before = first ++ less ∧ rest = less ++ item :: after := by
  rcases List.append_eq_append_iff.1 same with ⟨less, isBefore, isRest⟩ | ⟨more, isFirst, isAfter⟩
  · exact .inr ⟨less, isBefore, isRest⟩
  · cases more with
    | nil => exact .inr ⟨[], by simpa using isFirst.symm, isAfter.symm⟩
    | cons head tail =>
        obtain ⟨rfl, rfl⟩ := List.cons.inj isAfter
        exact .inl ⟨tail, isFirst, rfl⟩

theorem not_place_in_nil {before after : List α} {item : α}
    (place : [] = before ++ item :: after) : False := by
  cases before <;> cases place

theorem place_in_singleton {before after : List α} {only item : α}
    (place : [only] = before ++ item :: after) : before = [] ∧ only = item ∧ after = [] := by
  cases before with
  | nil =>
      obtain ⟨same, isLast⟩ := List.cons.inj place
      exact ⟨rfl, same, isLast.symm⟩
  | cons head less =>
      obtain ⟨-, nowhere⟩ := List.cons.inj place
      exact (not_place_in_nil nowhere).elim

/-- A place in what the items of a list stand for is a place in what one of them stands for. -/
theorem flatMap_eq_append_cons {items : List β} {parts : β → List α} {before after : List α}
    {place : α} (same : items.flatMap parts = before ++ place :: after) :
    ∃ earlier item later inside beyond, items = earlier ++ item :: later ∧
      parts item = inside ++ place :: beyond ∧ before = earlier.flatMap parts ++ inside ∧
        after = beyond ++ later.flatMap parts := by
  induction items generalizing before with
  | nil => exact (not_place_in_nil same).elim
  | cons first rest ih =>
      rw [List.flatMap_cons] at same
      rcases append_eq_append_cons same with ⟨beyond, here, rfl⟩ | ⟨less, rfl, onward⟩
      · exact ⟨[], first, rest, before, beyond, rfl, here, rfl, rfl⟩
      · obtain ⟨earlier, item, later, inside, beyond, rfl, here, rfl, rfl⟩ := ih onward
        refine ⟨first :: earlier, item, later, inside, beyond, rfl, here, ?_, rfl⟩
        rw [List.flatMap_cons, List.append_assoc]

theorem forall_mem_iff_place {holds : α → Prop} {items : List α} :
    (∀ item ∈ items, holds item) ↔
      ∀ before item after, items = before ++ item :: after → holds item := by
  constructor
  · rintro all before item after rfl
    exact all item (List.mem_append_right before List.mem_cons_self)
  · intro everywhere item member
    obtain ⟨before, after, split⟩ := List.append_of_mem member
    exact everywhere before item after split

/-- Items are related two by two exactly if each is related to those before it. -/
theorem pairwise_iff_place {relates : α → α → Prop} {items : List α} :
    items.Pairwise relates ↔ ∀ before item after, items = before ++ item :: after →
      ∀ other ∈ before, relates other item := by
  constructor
  · rintro pairwise before item after rfl other member
    exact (List.pairwise_append.1 pairwise).2.2 other member item List.mem_cons_self
  · intro everywhere
    induction items with
    | nil => exact .nil
    | cons first rest ih =>
        refine List.pairwise_cons.2 ⟨fun item member => ?_, ih ?_⟩
        · obtain ⟨before, after, rfl⟩ := List.append_of_mem member
          exact everywhere (first :: before) item after rfl first List.mem_cons_self
        · rintro before item after rfl other member
          exact everywhere (first :: before) item after rfl other (List.mem_cons_of_mem _ member)

/-! ## Lists related place by place -/

/-- Each item of a list is related to something exactly if the list is related to a list. -/
theorem exists_forall₂_iff {relates : α → β → Prop} {items : List α} :
    (∃ others, List.Forall₂ relates items others) ↔
      ∀ item ∈ items, ∃ other, relates item other := by
  induction items with
  | nil =>
      constructor
      · exact fun _ _ never => nomatch never
      · exact fun _ => ⟨[], .nil⟩
  | cons item rest ih =>
      rw [List.forall_mem_cons, ← ih]
      constructor
      · rintro ⟨_, head | ⟨here, later⟩⟩
        exact ⟨⟨_, here⟩, _, later⟩
      · rintro ⟨⟨other, here⟩, others, later⟩
        exact ⟨other :: others, .cons here later⟩

/-- Lists stay related if every two counterparts do. -/
theorem forall₂_imp_of_mem {relates other : α → β → Prop} {items : List α} {others : List β}
    (related : List.Forall₂ relates items others)
    (implies : ∀ item ∈ items, ∀ counterpart ∈ others, relates item counterpart →
      other item counterpart) : List.Forall₂ other items others := by
  obtain ⟨sameLength, paired⟩ := List.forall₂_iff_zip.1 related
  refine List.forall₂_iff_zip.2 ⟨sameLength, fun {item counterpart} pair => ?_⟩
  obtain ⟨listed, listedOther⟩ := List.of_mem_zip pair
  exact implies item listed counterpart listedOther (paired pair)

/-- What stands on the right of related lists is related to something on the left. -/
theorem exists_of_forall₂_of_mem {relates : α → β → Prop} {items : List α}
    {others : List β} (related : List.Forall₂ relates items others) {other : β}
    (member : other ∈ others) : ∃ item ∈ items, relates item other := by
  induction related with
  | nil => cases member
  | cons here _ ih =>
      rcases List.mem_cons.1 member with rfl | later
      · exact ⟨_, List.mem_cons_self, here⟩
      · obtain ⟨item, there, relates⟩ := ih later
        exact ⟨item, List.mem_cons_of_mem _ there, relates⟩

end RealmConvergence
