import RealmConvergence.Configuration.Layers
import RealmConvergence.Proofs.Collection.Place
import RealmConvergence.Proofs.Json.Places
import RealmConvergence.Proofs.Outcome

/-!
# Layers as they are read and merged

Layers are read exactly if each of them parses and becomes a JSON value (`readLayers_eq_ok_iff`).
Such a value has the members of all its objects in byte order, each name once, whatever their order
in the text (`inOrder_of_readLayers`), and so has what the layers are merged to
(`inOrder_mergeAll`).
-/

set_option autoImplicit false

namespace RealmConvergence

/-! ## Written members -/

namespace Json

theorem membersInOrder_put {name : String} {value : Json} {members : List (String × Json)}
    (ordered : value.InOrder) (held : MembersInOrder members) :
    MembersInOrder (Entries.put name value members) := by
  refine membersInOrder_iff.2 fun member here => ?_
  rcases Entries.mem_put here with rfl | there
  · exact ordered
  · exact membersInOrder_iff.1 held member there

/-- An object stays in byte order when a value in byte order is written into it. -/
theorem inOrder_put {name : String} {value : Json} {members : List (String × Json)}
    (ordered : value.InOrder) (held : (object members).InOrder) :
    (object (Entries.put name value members)).InOrder :=
  ⟨Entries.ascending_put name value held.1, membersInOrder_put ordered held.2⟩

theorem inOrder_empty : (object []).InOrder := ⟨Entries.ascending_nil, trivial⟩

end Json

/-! ## JSON values of layers -/

namespace Yaml.Value

mutual
/-- A YAML value becomes a JSON value in byte order. -/
theorem inOrder_toJson : ∀ (value : Value) {found : Json}, value.toJson = .ok found → found.InOrder
  | .scalar meaning, found, read => by
    cases read
    cases meaning with
    | real number => cases number <;> trivial
    | _ => trivial
  | .sequence items, found, read => by
    obtain ⟨values, itemsRead, rfl⟩ := exists_of_map_eq_ok read
    exact itemsInOrder_itemsToJson items itemsRead
  | .mapping entries, found, read => by
    obtain ⟨members, entriesRead, rfl⟩ := exists_of_map_eq_ok read
    exact inOrder_entriesToJson entries Json.inOrder_empty entriesRead
  | .tagged tag content, found, read => by
    obtain ⟨value, contentRead, rfl⟩ := exists_of_map_eq_ok read
    exact ⟨List.pairwise_singleton _ _, inOrder_toJson content contentRead, trivial⟩

theorem itemsInOrder_itemsToJson : ∀ (items : List Value) {found : List Json},
    itemsToJson items = .ok found → Json.ItemsInOrder found
  | [], found, read => by
    cases read
    trivial
  | item :: rest, found, read => by
    rw [itemsToJson] at read
    split at read
    · cases read
    · next value itemRead =>
      obtain ⟨others, restRead, rfl⟩ := exists_of_map_eq_ok read
      exact ⟨inOrder_toJson item itemRead, itemsInOrder_itemsToJson rest restRead⟩

theorem inOrder_entriesToJson : ∀ (entries : List (Value × Value))
    {held found : List (String × Json)}, (Json.object held).InOrder →
      entriesToJson held entries = .ok found → (Json.object found).InOrder
  | [], held, found, ordered, read => by
    cases read
    exact ordered
  | (key, value) :: rest, held, found, ordered, read => by
    rw [entriesToJson] at read
    split at read
    · cases read
    · split at read
      · cases read
      · next written valueRead =>
        exact inOrder_entriesToJson rest (Json.inOrder_put (inOrder_toJson value valueRead) ordered)
          read
end

end Yaml.Value

namespace Configuration

/-! ## Layers as they are read -/

/-- The text is a layer with this JSON value. -/
def Becomes (text : String) (layer : Json) : Prop :=
  ∃ value, Yaml.Value.ofText text = .ok value ∧ value.toJson = .ok layer

/-- **Layers are read exactly if each of them becomes a JSON value.** -/
theorem readLayers_eq_ok_iff {number : Nat} {layers : List String} {documents : List Json} :
    readLayers number layers = .ok documents ↔ List.Forall₂ Becomes layers documents := by
  induction layers generalizing number documents with
  | nil =>
      constructor
      · intro read
        cases read
        exact .nil
      · intro become
        cases become
        rfl
  | cons text rest ih =>
      rw [readLayers]
      constructor
      · intro read
        split at read
        · cases read
        · next value parses =>
          split at read
          · cases read
          · next layer converted =>
            obtain ⟨later, restRead, rfl⟩ := exists_of_map_eq_ok read
            exact .cons ⟨value, parses, converted⟩ (ih.1 restRead)
      · intro become
        cases become with
        | cons here later =>
            obtain ⟨value, parses, converted⟩ := here
            rw [parses]
            dsimp only
            rw [converted]
            exact congrArg (Except.map _) (ih.2 later)

theorem inOrder_of_readLayers {number : Nat} {layers : List String} {documents : List Json}
    (read : readLayers number layers = .ok documents) :
    ∀ document ∈ documents, document.InOrder := by
  intro document member
  obtain ⟨text, -, value, -, converted⟩ :=
    exists_of_forall₂_of_mem (readLayers_eq_ok_iff.1 read) member
  exact Yaml.Value.inOrder_toJson value converted

/-! ## Merged layers -/

mutual
/-- What is held and what is added in byte order merge to a value in byte order. -/
theorem inOrder_merge : ∀ (added : Json) {held : Json}, held.InOrder → added.InOrder →
    (merge held added).InOrder
  | .object added, held, heldOrdered, ordered => by
    cases held with
    | object members => exact inOrder_mergeMembers added heldOrdered ordered.2
    | _ => exact ordered
  | .null, _, _, ordered | .bool _, _, _, ordered | .number _, _, _, ordered
  | .string _, _, _, ordered | .array _, _, _, ordered => ordered

theorem inOrder_mergeMembers : ∀ (added : List (String × Json)) {held : List (String × Json)},
    (Json.object held).InOrder → Json.MembersInOrder added →
      (Json.object (mergeMembers held added)).InOrder
  | [], _, heldOrdered, _ => heldOrdered
  | (name, value) :: rest, held, heldOrdered, ordered => by
    have before : ((Entries.lookup name held).getD .null).InOrder := by
      cases found : Entries.lookup name held with
      | none => trivial
      | some value => exact heldOrdered.child found
    exact inOrder_mergeMembers rest
      (Json.inOrder_put (inOrder_merge value before ordered.1) heldOrdered) ordered.2
end

theorem inOrder_mergeAll {documents : List Json}
    (ordered : ∀ document ∈ documents, document.InOrder) : (mergeAll documents).InOrder := by
  have folds {held : Json} (heldOrdered : held.InOrder) : (documents.foldl merge held).InOrder := by
    induction documents generalizing held with
    | nil => exact heldOrdered
    | cons document rest ih =>
        exact ih (fun other member => ordered other (List.mem_cons_of_mem _ member))
          (inOrder_merge document heldOrdered (ordered document List.mem_cons_self))
  exact folds Json.inOrder_empty

end Configuration

end RealmConvergence
