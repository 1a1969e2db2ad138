import Mathlib.Data.List.Perm.Basic
import RealmConvergence.Proofs.Collection.Place
import RealmConvergence.Proofs.Collection.Table
import RealmConvergence.Proofs.Outcome
import RealmConvergence.Yaml.ToJson

/-!
# Mappings in another order

A value is another one in another order if the entries of mappings, at any depth, stand in another
order (`Reordered`). The one becomes a JSON value exactly if the other does
(`Reordered.converts_iff`), but not always the same: two keys of one mapping may have one text, and
then the later entry wins.

A value is unambiguous if entries whose keys have one text become one JSON value (`Unambiguous`).
For a value that becomes a JSON value, this is exactly what it takes for the order not to matter
(`unambiguous_iff`).
-/

set_option autoImplicit false

namespace RealmConvergence.Yaml.Value

variable {value : Value} {items : List Value} {entries : List (Value × Value)}

/-! ## Values in another order -/

mutual
/-- The entries of mappings, at any depth, stand in another order. -/
inductive Reordered : Value → Value → Prop where
  | scalar (meaning : Scalar) : Reordered (.scalar meaning) (.scalar meaning)
  | sequence {items others : List Value} (each : ItemsReordered items others) :
      Reordered (.sequence items) (.sequence others)
  | mapping {entries others moved : List (Value × Value)} (each : EntriesReordered entries others)
      (moves : others.Perm moved) : Reordered (.mapping entries) (.mapping moved)
  | tagged (tag : String) {content other : Value} (inside : Reordered content other) :
      Reordered (.tagged tag content) (.tagged tag other)

/-- Every item stands in its place, with mappings inside it in another order. -/
inductive ItemsReordered : List Value → List Value → Prop where
  | nil : ItemsReordered [] []
  | cons {item other : Value} {rest others : List Value} (head : Reordered item other)
      (tail : ItemsReordered rest others) : ItemsReordered (item :: rest) (other :: others)

/-- Every entry stands in its place, with mappings inside it in another order. -/
inductive EntriesReordered : List (Value × Value) → List (Value × Value) → Prop where
  | nil : EntriesReordered [] []
  | cons {key otherKey value other : Value} {rest others : List (Value × Value)}
      (sameKey : Reordered key otherKey) (sameValue : Reordered value other)
      (tail : EntriesReordered rest others) :
      EntriesReordered ((key, value) :: rest) ((otherKey, other) :: others)
end

mutual
theorem Reordered.refl : ∀ value : Value, Reordered value value
  | .scalar meaning => .scalar meaning
  | .sequence items => .sequence (ItemsReordered.refl items)
  | .mapping entries => .mapping (EntriesReordered.refl entries) (.refl entries)
  | .tagged tag content => .tagged tag (Reordered.refl content)

theorem ItemsReordered.refl : ∀ items : List Value, ItemsReordered items items
  | [] => .nil
  | item :: rest => .cons (Reordered.refl item) (ItemsReordered.refl rest)

theorem EntriesReordered.refl : ∀ entries : List (Value × Value), EntriesReordered entries entries
  | [] => .nil
  | (key, value) :: rest =>
    .cons (Reordered.refl key) (Reordered.refl value) (EntriesReordered.refl rest)
end

/-- The order inside a key does not matter for its text. -/
theorem Reordered.keyText_eq {key other : Value} (reordered : Reordered key other) :
    keyText other = keyText key := by
  cases reordered <;> rfl

/-! ## What a value becomes -/

/-- The value becomes a JSON value. -/
def Converts (value : Value) : Prop :=
  ∃ found, toJson value = .ok found

/-- The member that an entry stands for. -/
def Stands (entry : Value × Value) (named : String × Json) : Prop :=
  keyText entry.1 = .ok named.1 ∧ toJson entry.2 = .ok named.2

theorem itemsToJson_eq_ok_iff {found : List Json} : itemsToJson items = .ok found ↔
    List.Forall₂ (fun item other => toJson item = .ok other) items found := by
  induction items generalizing found with
  | nil =>
      constructor
      · intro read
        cases read
        exact .nil
      · intro stand
        cases stand
        rfl
  | cons item rest ih =>
      rw [itemsToJson]
      constructor
      · intro read
        split at read
        · cases read
        · next value isValue =>
          obtain ⟨others, restRead, rfl⟩ := exists_of_map_eq_ok read
          exact .cons isValue (ih.1 restRead)
      · intro stand
        cases stand with
        | cons here later =>
            rw [here]
            exact congrArg (Except.map _) (ih.2 later)

/-- The members of a mapping are those its entries stand for, written one after the other. -/
theorem entriesToJson_eq_ok_iff {held found : Entries Json} :
    entriesToJson held entries = .ok found ↔
      ∃ added, List.Forall₂ Stands entries added ∧ Entries.putAll added held = found := by
  induction entries generalizing held with
  | nil =>
      constructor
      · intro read
        cases read
        exact ⟨[], .nil, rfl⟩
      · rintro ⟨_, ⟨⟩, rfl⟩
        rfl
  | cons entry rest ih =>
      obtain ⟨key, value⟩ := entry
      rw [entriesToJson]
      constructor
      · intro read
        split at read
        · cases read
        · next name isName =>
          split at read
          · cases read
          · next written isValue =>
            obtain ⟨added, stand, rfl⟩ := ih.1 read
            exact ⟨(name, written) :: added, .cons ⟨isName, isValue⟩ stand, rfl⟩
      · rintro ⟨_, stand, rfl⟩
        cases stand with
        | @cons _ named _ added here later =>
            obtain ⟨isName, isValue⟩ := here
            dsimp only at isName isValue
            rw [isName]
            dsimp only
            rw [isValue]
            exact ih.2 ⟨added, later, rfl⟩

theorem toJson_sequence_eq_ok_iff {found : Json} : toJson (.sequence items) = .ok found ↔
    ∃ others, List.Forall₂ (fun item other => toJson item = .ok other) items others ∧
      Json.array others = found := by
  rw [toJson]
  constructor
  · intro read
    obtain ⟨others, itemsRead, rfl⟩ := exists_of_map_eq_ok read
    exact ⟨others, itemsToJson_eq_ok_iff.1 itemsRead, rfl⟩
  · rintro ⟨others, stand, rfl⟩
    rw [itemsToJson_eq_ok_iff.2 stand]
    rfl

theorem toJson_mapping_eq_ok_iff {found : Json} : toJson (.mapping entries) = .ok found ↔
    ∃ added, List.Forall₂ Stands entries added ∧ Json.object (Entries.putAll added []) = found := by
  rw [toJson]
  constructor
  · intro read
    obtain ⟨members, entriesRead, rfl⟩ := exists_of_map_eq_ok read
    obtain ⟨added, stand, rfl⟩ := entriesToJson_eq_ok_iff.1 entriesRead
    exact ⟨added, stand, rfl⟩
  · rintro ⟨added, stand, rfl⟩
    rw [entriesToJson_eq_ok_iff.2 ⟨added, stand, rfl⟩]
    rfl

theorem converts_sequence_iff :
    Converts (.sequence items) ↔ ∀ item ∈ items, Converts item := by
  unfold Converts
  rw [← exists_forall₂_iff]
  constructor
  · rintro ⟨found, read⟩
    obtain ⟨others, stand, -⟩ := toJson_sequence_eq_ok_iff.1 read
    exact ⟨others, stand⟩
  · rintro ⟨others, stand⟩
    exact ⟨_, toJson_sequence_eq_ok_iff.2 ⟨others, stand, rfl⟩⟩

theorem converts_mapping_iff :
    Converts (.mapping entries) ↔ ∀ entry ∈ entries, ∃ named, Stands entry named := by
  unfold Converts
  rw [← exists_forall₂_iff]
  constructor
  · rintro ⟨found, read⟩
    obtain ⟨added, stand, -⟩ := toJson_mapping_eq_ok_iff.1 read
    exact ⟨added, stand⟩
  · rintro ⟨added, stand⟩
    exact ⟨_, toJson_mapping_eq_ok_iff.2 ⟨added, stand, rfl⟩⟩

theorem converts_tagged_iff {tag : String} : Converts (.tagged tag value) ↔ Converts value := by
  unfold Converts
  rw [toJson]
  constructor
  · rintro ⟨found, read⟩
    obtain ⟨content, contentRead, -⟩ := exists_of_map_eq_ok read
    exact ⟨content, contentRead⟩
  · rintro ⟨content, contentRead⟩
    rw [contentRead]
    exact ⟨_, rfl⟩

/-! ## Becoming a JSON value in either order -/

mutual
/-- **A value becomes a JSON value exactly if it does in another order.** -/
theorem Reordered.converts_iff : ∀ (value : Value) {other : Value}, Reordered value other →
    (Converts value ↔ Converts other)
  | .scalar _, _, .scalar _ => Iff.rfl
  | .sequence items, _, .sequence each => by
    rw [converts_sequence_iff, converts_sequence_iff]
    exact ItemsReordered.convert_iff items each
  | .mapping entries, _, .mapping each moves => by
    rw [converts_mapping_iff, converts_mapping_iff, EntriesReordered.stand_iff entries each]
    exact forall_congr' fun entry => imp_congr_left moves.mem_iff
  | .tagged _ content, _, .tagged _ inside => by
    rw [converts_tagged_iff, converts_tagged_iff]
    exact Reordered.converts_iff content inside

theorem ItemsReordered.convert_iff : ∀ (items : List Value) {others : List Value},
    ItemsReordered items others → ((∀ item ∈ items, Converts item) ↔ ∀ item ∈ others, Converts item)
  | [], _, .nil => Iff.rfl
  | item :: rest, _, .cons head tail => by
    rw [List.forall_mem_cons, List.forall_mem_cons, Reordered.converts_iff item head,
      ItemsReordered.convert_iff rest tail]

theorem EntriesReordered.stand_iff : ∀ (entries : List (Value × Value))
    {others : List (Value × Value)}, EntriesReordered entries others →
      ((∀ entry ∈ entries, ∃ named, Stands entry named) ↔
        ∀ entry ∈ others, ∃ named, Stands entry named)
  | [], _, .nil => Iff.rfl
  | (key, value) :: rest, _, .cons sameKey sameValue tail => by
    rw [List.forall_mem_cons, List.forall_mem_cons, EntriesReordered.stand_iff rest tail]
    have values := Reordered.converts_iff value sameValue
    refine and_congr_left fun _ => ?_
    unfold Stands
    dsimp only
    rw [sameKey.keyText_eq]
    constructor
    · rintro ⟨⟨name, found⟩, isName, isValue⟩
      obtain ⟨other, isOther⟩ := values.1 ⟨found, isValue⟩
      exact ⟨(name, other), isName, isOther⟩
    · rintro ⟨⟨name, found⟩, isName, isValue⟩
      obtain ⟨other, isOther⟩ := values.2 ⟨found, isValue⟩
      exact ⟨(name, other), isName, isOther⟩
end

/-! ## Unambiguous values -/

/-- Entries whose keys have one text become one JSON value. -/
def EntriesAgree (entries : List (Value × Value)) : Prop :=
  ∀ entry ∈ entries, ∀ other ∈ entries, ∀ name, keyText entry.1 = .ok name →
    keyText other.1 = .ok name → toJson entry.2 = toJson other.2

mutual
/-- In every mapping, entries whose keys have one text become one JSON value. -/
def Unambiguous : Value → Prop
  | .scalar _ => True
  | .sequence items => ItemsUnambiguous items
  | .mapping entries => EntriesUnambiguous entries ∧ EntriesAgree entries
  | .tagged _ content => Unambiguous content

/-- Every item is unambiguous. -/
def ItemsUnambiguous : List Value → Prop
  | [] => True
  | item :: rest => Unambiguous item ∧ ItemsUnambiguous rest

/-- The value of every entry is unambiguous. -/
def EntriesUnambiguous : List (Value × Value) → Prop
  | [] => True
  | (_, value) :: rest => Unambiguous value ∧ EntriesUnambiguous rest
end

/-- The members that agreeing entries stand for agree. -/
theorem EntriesAgree.agree {added : Entries Json} (agree : EntriesAgree entries)
    (stand : List.Forall₂ Stands entries added) : added.Agree := by
  intro name found other here there
  obtain ⟨entry, member, isName, isFound⟩ := exists_of_forall₂_of_mem stand here
  obtain ⟨otherEntry, otherMember, otherIsName, isOther⟩ := exists_of_forall₂_of_mem stand there
  have same := agree entry member otherEntry otherMember name isName otherIsName
  exact Except.ok.inj ((isFound.symm.trans same).trans isOther)

mutual
/-- **In another order, an unambiguous value becomes the same JSON value.** -/
theorem Reordered.toJson_eq : ∀ (value : Value) {other : Value} {found : Json},
    Reordered value other → Unambiguous value → toJson value = .ok found → toJson other = .ok found
  | .scalar _, _, _, .scalar _, _, read => read
  | .sequence items, _, _, .sequence each, unambiguous, read => by
    obtain ⟨others, stand, rfl⟩ := toJson_sequence_eq_ok_iff.1 read
    have otherStand := ItemsReordered.toJson_eq items each unambiguous stand
    exact toJson_sequence_eq_ok_iff.2 ⟨others, otherStand, rfl⟩
  | .mapping entries, _, _, .mapping each moves, unambiguous, read => by
    obtain ⟨added, stand, rfl⟩ := toJson_mapping_eq_ok_iff.1 read
    have otherStand := EntriesReordered.stand_eq entries each unambiguous.1 stand
    -- The moved entries stand for moved members, and agreeing members may be written in any order.
    obtain ⟨moved, movedStand, addedMoves⟩ := List.perm_comp_forall₂ moves.symm otherStand
    have agree := unambiguous.2.agree stand
    have written := Entries.agree_iff_putAll_perm.1 agree moved addedMoves.symm
    exact toJson_mapping_eq_ok_iff.2 ⟨moved, movedStand, congrArg Json.object written⟩
  | .tagged _ content, _, _, .tagged _ inside, unambiguous, read => by
    obtain ⟨found, contentRead, rfl⟩ := exists_of_map_eq_ok read
    rw [toJson, Reordered.toJson_eq content inside unambiguous contentRead]
    rfl

theorem ItemsReordered.toJson_eq : ∀ (items : List Value) {others : List Value} {found : List Json},
    ItemsReordered items others → ItemsUnambiguous items →
      List.Forall₂ (fun item other => toJson item = .ok other) items found →
        List.Forall₂ (fun item other => toJson item = .ok other) others found
  | [], _, _, .nil, _, stand => stand
  | item :: rest, _, _, .cons head tail, unambiguous, stand => by
    cases stand with
    | cons here later =>
        exact .cons (Reordered.toJson_eq item head unambiguous.1 here)
          (ItemsReordered.toJson_eq rest tail unambiguous.2 later)

theorem EntriesReordered.stand_eq : ∀ (entries : List (Value × Value))
    {others : List (Value × Value)} {added : Entries Json}, EntriesReordered entries others →
      EntriesUnambiguous entries → List.Forall₂ Stands entries added →
        List.Forall₂ Stands others added
  | [], _, _, .nil, _, stand => stand
  | (_, value) :: rest, _, _, .cons sameKey sameValue tail, unambiguous, stand => by
    cases stand with
    | cons here later =>
        obtain ⟨isName, isValue⟩ := here
        exact .cons
          ⟨sameKey.keyText_eq.trans isName,
            Reordered.toJson_eq value sameValue unambiguous.1 isValue⟩
          (EntriesReordered.stand_eq rest tail unambiguous.2 later)
end

/-! ## Ambiguity shows in some order -/

/-- The value of one entry may be put in another order alone. -/
theorem entriesReordered_append_cons (before : List (Value × Value)) {key value other : Value}
    (after : List (Value × Value)) (reordered : Reordered value other) :
    EntriesReordered (before ++ (key, value) :: after) (before ++ (key, other) :: after) := by
  induction before with
  | nil => exact .cons (Reordered.refl key) reordered (EntriesReordered.refl after)
  | cons first rest ih => exact .cons (Reordered.refl first.1) (Reordered.refl first.2) ih

/-- Of a mapping that becomes the same object in every order, each entry can be read: it may be the
last one. -/
theorem lookup_of_toJson_eq {members : Entries Json}
    (same : ∀ other, Reordered (.mapping entries) other → toJson other = .ok (.object members))
    {key other : Value} {name : String} (member : (key, value) ∈ entries)
    (isName : keyText key = .ok name) (reordered : Reordered value other) :
    ∃ found, toJson other = .ok found ∧ Entries.lookup name members = some found := by
  obtain ⟨before, after, rfl⟩ := List.append_of_mem member
  have stand := converts_mapping_iff.1 ⟨_, same _ (Reordered.refl _)⟩
  have otherStand := (EntriesReordered.stand_iff _
    (entriesReordered_append_cons before after reordered)).1 stand
  obtain ⟨⟨_, found⟩, -, isFound⟩ := otherStand (key, other) (by simp)
  refine ⟨found, isFound, ?_⟩
  -- The other entries in their order, and this one after them.
  obtain ⟨added, front⟩ := exists_forall₂_iff.2 fun entry (there : entry ∈ before ++ after) =>
    otherStand entry (by simp only [List.mem_append, List.mem_cons] at there ⊢; tauto)
  have last : List.Forall₂ Stands [(key, other)] [(name, found)] := .cons ⟨isName, isFound⟩ .nil
  have moves : (before ++ (key, other) :: after).Perm (before ++ after ++ [(key, other)]) := by
    rw [List.append_assoc]
    exact .append_left before (List.perm_append_singleton _ _).symm
  have read := toJson_mapping_eq_ok_iff.2 ⟨_, List.rel_append front last, rfl⟩
  rw [same _ (.mapping (entriesReordered_append_cons before after reordered) moves)] at read
  cases read
  exact Entries.lookup_putAll_append_singleton added name found

mutual
/-- A value that becomes the same JSON value in every order is unambiguous. -/
theorem unambiguous_of_toJson_eq : ∀ (value : Value) {found : Json},
    (∀ other, Reordered value other → toJson other = .ok found) → Unambiguous value
  | .scalar _, _, _ => trivial
  | .sequence items, _, same => by
    obtain ⟨found, stand, rfl⟩ := toJson_sequence_eq_ok_iff.1 (same _ (Reordered.refl _))
    have each (others : List Value) (reordered : ItemsReordered items others) :
        List.Forall₂ (fun item other => toJson item = .ok other) others found := by
      obtain ⟨_, otherStand, isFound⟩ := toJson_sequence_eq_ok_iff.1 (same _ (.sequence reordered))
      cases isFound
      exact otherStand
    exact itemsUnambiguous_of_toJson_eq items each
  | .mapping entries, _, same => by
    obtain ⟨added, stand, rfl⟩ := toJson_mapping_eq_ok_iff.1 (same _ (Reordered.refl _))
    constructor
    · refine entriesUnambiguous_of_toJson_eq entries fun key value member => ?_
      obtain ⟨⟨name, _⟩, isName, -⟩ :=
        converts_mapping_iff.1 ⟨_, same _ (Reordered.refl _)⟩ _ member
      obtain ⟨found, -, held⟩ := lookup_of_toJson_eq same member isName (Reordered.refl value)
      refine ⟨found, fun other reordered => ?_⟩
      obtain ⟨otherFound, isFound, otherHeld⟩ := lookup_of_toJson_eq same member isName reordered
      rw [isFound, Option.some.inj (otherHeld.symm.trans held)]
    · intro entry member other otherMember name isName otherIsName
      obtain ⟨found, isFound, held⟩ := lookup_of_toJson_eq same member isName (Reordered.refl _)
      obtain ⟨otherFound, isOther, otherHeld⟩ :=
        lookup_of_toJson_eq same otherMember otherIsName (Reordered.refl _)
      rw [isFound, isOther, Option.some.inj (otherHeld.symm.trans held)]
  | .tagged tag content, _, same => by
    obtain ⟨found, contentRead, rfl⟩ := exists_of_map_eq_ok (same _ (Reordered.refl _))
    have inside (other : Value) (reordered : Reordered content other) :
        toJson other = .ok found := by
      obtain ⟨_, isOther, isFound⟩ := exists_of_map_eq_ok (same _ (.tagged tag reordered))
      cases isFound
      exact isOther
    exact unambiguous_of_toJson_eq content inside

theorem itemsUnambiguous_of_toJson_eq : ∀ (items : List Value) {found : List Json},
    (∀ others, ItemsReordered items others →
      List.Forall₂ (fun item other => toJson item = .ok other) others found) →
        ItemsUnambiguous items
  | [], _, _ => trivial
  | item :: rest, _, same => by
    cases same _ (ItemsReordered.refl _) with
    | cons here later =>
        have head (other : Value) (reordered : Reordered item other) :=
          (List.forall₂_cons.1 (same _ (.cons reordered (ItemsReordered.refl rest)))).1
        have tail (others : List Value) (reordered : ItemsReordered rest others) :=
          (List.forall₂_cons.1 (same _ (.cons (Reordered.refl item) reordered))).2
        exact ⟨unambiguous_of_toJson_eq item head, itemsUnambiguous_of_toJson_eq rest tail⟩

theorem entriesUnambiguous_of_toJson_eq : ∀ (entries : List (Value × Value)),
    (∀ key value, (key, value) ∈ entries →
      ∃ found, ∀ other, Reordered value other → toJson other = .ok found) →
        EntriesUnambiguous entries
  | [], _ => trivial
  | (key, value) :: rest, same => by
    obtain ⟨found, here⟩ := same key value List.mem_cons_self
    exact ⟨unambiguous_of_toJson_eq value here, entriesUnambiguous_of_toJson_eq rest
      fun key value member => same key value (List.mem_cons_of_mem _ member)⟩
end

/-- **A value that becomes a JSON value is unambiguous exactly if it becomes the same one in every
order.** -/
theorem unambiguous_iff (converts : Converts value) :
    Unambiguous value ↔ ∀ other, Reordered value other → toJson other = toJson value := by
  obtain ⟨found, read⟩ := converts
  rw [read]
  constructor
  · exact fun unambiguous other reordered => Reordered.toJson_eq value reordered unambiguous read
  · exact unambiguous_of_toJson_eq value

end RealmConvergence.Yaml.Value
