import Mathlib.Data.List.Nodup
import RealmConvergence.Proofs.Configuration.LiteralSecrets
import RealmConvergence.Proofs.Yaml.Reordering

/-!
# The order of keys

Two texts write the same document if they parse to values that differ in the order of mappings
alone (`SameDocument`). If two lists of layers write the same documents, layer by layer, either both
are read or neither. Unless two keys of one mapping have one text but not one value, both are loaded
as one configuration, with one canonical text and one digest, or both are refused
(`load_ignores_key_order`).

The condition is needed. The number 1 and the text 1 are different keys with one text, and what a
mapping with both becomes depends on which of them stands last (`load_depends_on_key_order`).
-/

set_option autoImplicit false

namespace RealmConvergence.Configuration

open Yaml (Scalar Value)
open Yaml.Value (Reordered Converts)

/-! ## The same documents -/

/-- Both texts parse to one value up to the order of mappings, or neither of them parses. -/
inductive SameDocument (left right : String) : Prop where
  | parsed {value other : Value} (leftParses : Value.ofText left = .ok value)
      (rightParses : Value.ofText right = .ok other) (reordered : Reordered value other)
  | unparsed {problem otherProblem : Yaml.ReadError}
      (leftFails : Value.ofText left = .error problem)
      (rightFails : Value.ofText right = .error otherProblem)

/-- Where the text parses, entries of one mapping whose keys have one text become one value. -/
def UnambiguousKeys (text : String) : Prop :=
  ∀ value, Value.ofText text = .ok value → value.Unambiguous

variable {left right : String}

theorem SameDocument.becomes_iff (same : SameDocument left right) :
    (∃ layer, Becomes left layer) ↔ ∃ layer, Becomes right layer := by
  cases same with
  | @parsed value other leftParses rightParses reordered =>
      have leftBecomes : (∃ layer, Becomes left layer) ↔ Converts value := by
        simp only [Becomes, Converts, leftParses, Except.ok.injEq, exists_eq_left']
      have rightBecomes : (∃ layer, Becomes right layer) ↔ Converts other := by
        simp only [Becomes, Converts, rightParses, Except.ok.injEq, exists_eq_left']
      rw [leftBecomes, rightBecomes]
      exact Reordered.converts_iff value reordered
  | unparsed leftFails rightFails =>
      constructor
      · rintro ⟨_, _, parses, -⟩
        cases leftFails.symm.trans parses
      · rintro ⟨_, _, parses, -⟩
        cases rightFails.symm.trans parses

/-- A document with unambiguous keys is one layer, in whatever order it is written. -/
theorem SameDocument.becomes (same : SameDocument left right) (unambiguous : UnambiguousKeys left)
    {layer : Json} (becomes : Becomes left layer) : Becomes right layer := by
  obtain ⟨value, parses, converted⟩ := becomes
  cases same with
  | parsed leftParses rightParses reordered =>
      cases leftParses.symm.trans parses
      have same := Reordered.toJson_eq value reordered (unambiguous value parses) converted
      exact ⟨_, rightParses, same⟩
  | unparsed leftFails _ => cases leftFails.symm.trans parses

/-! ## Mappings of scalars -/

/-- The entries with the given scalars as keys and values. -/
def scalarEntries (pairs : List (Scalar × Scalar)) : List (Value × Value) :=
  pairs.map fun pair => (.scalar pair.1, .scalar pair.2)

/-- The scalars of entries that hold nothing else. -/
def scalarPairs? : List (Value × Value) → Option (List (Scalar × Scalar))
  | [] => some []
  | (.scalar key, .scalar value) :: rest => (scalarPairs? rest).map ((key, value) :: ·)
  | _ => none

theorem eq_scalarEntries {entries : List (Value × Value)} {pairs : List (Scalar × Scalar)}
    (known : scalarPairs? entries = some pairs) : entries = scalarEntries pairs := by
  fun_induction scalarPairs? entries generalizing pairs with
  | case1 =>
      cases known
      rfl
  | case2 key value rest ih =>
      obtain ⟨others, restKnown, rfl⟩ := Option.map_eq_some_iff.1 known
      rw [ih restKnown]
      rfl
  | case3 => cases known

/-- The scalars of the mapping that a text writes. -/
def mappingOfText? (text : String) : Option (List (Scalar × Scalar)) :=
  match Value.ofText text with
  | .ok (.mapping entries) => scalarPairs? entries
  | _ => none

theorem ofText_eq_ok_mapping {text : String} {pairs : List (Scalar × Scalar)}
    (known : mappingOfText? text = some pairs) :
    Value.ofText text = .ok (.mapping (scalarEntries pairs)) := by
  unfold mappingOfText? at known
  split at known
  · next entries parses => rw [parses, eq_scalarEntries known]
  · cases known

/-- Mappings of scalars are the same document if the one is the other rearranged. -/
theorem sameDocument_of_perm {pairs others : List (Scalar × Scalar)}
    (leftKnown : mappingOfText? left = some pairs) (rightKnown : mappingOfText? right = some others)
    (moves : pairs.Perm others) : SameDocument left right :=
  .parsed (ofText_eq_ok_mapping leftKnown) (ofText_eq_ok_mapping rightKnown)
    (.mapping (Yaml.Value.EntriesReordered.refl _) (moves.map _))

/-- A mapping of scalars has unambiguous keys if no two of its keys have one text. -/
theorem unambiguousKeys_of_nodup {text : String} {pairs : List (Scalar × Scalar)}
    (known : mappingOfText? text = some pairs)
    (distinct : (pairs.map fun pair => (Value.keyText (.scalar pair.1)).toOption).Nodup) :
    UnambiguousKeys text := by
  intro value parses
  cases (ofText_eq_ok_mapping known).symm.trans parses
  constructor
  · clear known distinct parses
    induction pairs with
    | nil => trivial
    | cons pair rest ih => exact ⟨trivial, ih⟩
  · intro entry member other otherMember name isName otherIsName
    obtain ⟨pair, there, rfl⟩ := List.mem_map.1 member
    obtain ⟨otherPair, otherThere, rfl⟩ := List.mem_map.1 otherMember
    dsimp only at isName otherIsName
    have same : pair = otherPair :=
      List.inj_on_of_nodup_map distinct there otherThere (by rw [isName, otherIsName])
    rw [same]

/-! ## Lists of layers -/

section Layers

variable {number : Nat} {layers others : List String} {documents : List Json}

/-- Layers are read exactly if those that write the same documents are. -/
theorem readLayers_succeeds_iff (same : List.Forall₂ SameDocument layers others) :
    (∃ documents, readLayers number layers = .ok documents) ↔
      ∃ documents, readLayers number others = .ok documents := by
  simp only [readLayers_eq_ok_iff, exists_forall₂_iff]
  induction same with
  | nil => exact Iff.rfl
  | cons here _ ih => rw [List.forall_mem_cons, List.forall_mem_cons, here.becomes_iff, ih]

/-- Layers with unambiguous keys are read as the same as others that write the same documents. -/
theorem readLayers_of_sameDocument (same : List.Forall₂ SameDocument layers others)
    (unambiguous : ∀ text ∈ layers, UnambiguousKeys text)
    (read : readLayers number layers = .ok documents) :
    readLayers number others = .ok documents := by
  rw [readLayers_eq_ok_iff] at read ⊢
  induction same generalizing documents with
  | nil => exact read
  | cons here _ ih =>
      obtain ⟨first, rest⟩ := List.forall_mem_cons.1 unambiguous
      cases read with
      | cons becomes later => exact .cons (here.becomes first becomes) (ih rest later)

/-- **The order of keys does not matter, unless two keys of one mapping have one text but not one
value.** Of two lists of layers that write the same documents, both are read or neither; where no
layer has such keys, both are loaded as one configuration or both are refused. -/
theorem load_ignores_key_order (same : List.Forall₂ SameDocument layers others) :
    ((∃ documents, readLayers 0 layers = .ok documents) ↔
      ∃ documents, readLayers 0 others = .ok documents) ∧
    ((∀ text ∈ layers, UnambiguousKeys text) →
      ((∃ problem, load layers = .error problem) ∧ ∃ problem, load others = .error problem) ∨
        ∃ merged, load layers = .ok merged ∧ load others = .ok merged) := by
  refine ⟨readLayers_succeeds_iff same, fun unambiguous => ?_⟩
  cases read : readLayers 0 layers with
  | error problem =>
      cases otherRead : readLayers 0 others with
      | error otherProblem =>
          exact .inl ⟨⟨_, load_of_readLayers_error read⟩, _, load_of_readLayers_error otherRead⟩
      | ok documents =>
          obtain ⟨_, wrong⟩ := (readLayers_succeeds_iff same).2 ⟨documents, otherRead⟩
          cases read.symm.trans wrong
  | ok documents =>
      have otherRead := readLayers_of_sameDocument same unambiguous read
      rw [load_of_readLayers read, load_of_readLayers otherRead]
      cases refuseSecrets (mergeAll documents) with
      | error problem => exact .inl ⟨⟨problem, rfl⟩, problem, rfl⟩
      | ok _ => exact .inr ⟨⟨mergeAll documents⟩, rfl, rfl⟩

end Layers

/-- A layer with a name and an address. -/
def nameFirst : String := "name: school\nurl: sso\n"

/-- The same layer, its keys swapped. -/
def addressFirst : String := "url: sso\nname: school\n"

theorem load_ignores_key_order_swapped :
    ∃ merged, load [nameFirst] = .ok merged ∧ load [addressFirst] = .ok merged := by
  have left : mappingOfText? nameFirst =
      some [(.text "name", .text "school"), (.text "url", .text "sso")] := by decide +kernel
  have right : mappingOfText? addressFirst =
      some [(.text "url", .text "sso"), (.text "name", .text "school")] := by decide +kernel
  have same := sameDocument_of_perm left right (.swap _ _ _)
  have unambiguous := unambiguousKeys_of_nodup left (by decide)
  have loads : (load [nameFirst]).toOption.isSome = true := by decide +kernel
  obtain ⟨-, agrees⟩ := load_ignores_key_order (.cons same .nil)
  rcases agrees (List.forall_mem_singleton.2 unambiguous) with ⟨⟨problem, refused⟩, -⟩ | agree
  · rw [refused] at loads
    cases loads
  · exact agree

/-- The number 1 stands first, and then the text 1. -/
def numberFirst : String := "1: a\n\"1\": b\n"

/-- The text 1 stands first, and then the number 1. -/
def textFirst : String := "\"1\": b\n1: a\n"

/-- One document with two keys of one text is loaded as two configurations. -/
theorem load_depends_on_key_order :
    SameDocument numberFirst textFirst ∧
      ∃ first second, load [numberFirst] = .ok first ∧ load [textFirst] = .ok second ∧
        first.canonicalText ≠ second.canonicalText ∧ first.digest ≠ second.digest := by
  have number : mappingOfText? numberFirst =
      some [(.integer 1, .text "a"), (.text "1", .text "b")] := by decide +kernel
  have text : mappingOfText? textFirst =
      some [(.text "1", .text "b"), (.integer 1, .text "a")] := by decide +kernel
  have differ : (load [numberFirst]).toOption.isSome = true ∧
      (load [textFirst]).toOption.isSome = true ∧
      (load [numberFirst]).toOption.map Merged.canonicalText ≠
        (load [textFirst]).toOption.map Merged.canonicalText ∧
      (load [numberFirst]).toOption.map Merged.digest ≠
        (load [textFirst]).toOption.map Merged.digest := by decide +kernel
  refine ⟨sameDocument_of_perm number text (.swap _ _ _), ?_⟩
  obtain ⟨firstThere, secondThere, texts, digests⟩ := differ
  obtain ⟨first, isFirst⟩ := Option.isSome_iff_exists.1 firstThere
  obtain ⟨second, isSecond⟩ := Option.isSome_iff_exists.1 secondThere
  rw [isFirst, isSecond] at texts digests
  refine ⟨first, second, toOption_eq_some_iff.1 isFirst, toOption_eq_some_iff.1 isSecond, ?_, ?_⟩
  · exact fun same => texts (congrArg some same)
  · exact fun same => digests (congrArg some same)

end RealmConvergence.Configuration
