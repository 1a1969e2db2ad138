import RealmConvergence.Proofs.Configuration.UnusedKeys
import RealmConvergence.Proofs.Json.Decoding

/-!
# Settings that are read and count as unused

The typed document and the places that are read are two lists of the same settings, and they agree
on every setting that is written as a member of its section. They part on the sections themselves:
the document takes a section that is null, that has no members, or that is written as an array of
its fields, and none of these leaves is at or below a place that is read.

Three sections can be written so. Where each of them is missing or is an object with members, a
document that is made of known sections has no unused key; and otherwise it has one, at or below
such a section (`strict_accepts_iff`).
-/

set_option autoImplicit false

namespace RealmConvergence.Configuration

open Json (Path Shape FieldRule)
open Json.Pointer (ofPath path?)

/-! ## Places that are read, by their paths -/

/-- The paths of the places that are read. -/
def consumedPaths : List Path := consumedPointers.filterMap path?

theorem isRead_iff {path : Path} : IsRead path ↔ ∃ upper ∈ consumedPaths, upper <+: path := by
  unfold IsRead consumedPaths
  constructor
  · rintro ⟨pointer, consumed, upper, leads, above⟩
    exact ⟨upper, List.mem_filterMap.2 ⟨pointer, consumed, leads⟩, above⟩
  · rintro ⟨upper, member, above⟩
    obtain ⟨pointer, consumed, leads⟩ := List.mem_filterMap.1 member
    exact ⟨pointer, consumed, upper, leads, above⟩

/-- The sections of which only single settings are read. -/
def settingSections : List Path := [["keycloak"], ["keycloak", "credentials_env"], ["bootstrap"]]

/-- Unless nothing stands at the path, it is an object that has members. -/
def IsFilled (value : Json) (path : Path) : Prop :=
  ∀ found, value.at? path = some found → ∃ first rest, found = .object (first :: rest)

variable {value : Json}

/-- A value is an object with members, or it is not. -/
theorem filled_or_other (found : Json) :
    (∃ first rest, found = .object (first :: rest)) ∨
      ∀ first rest, found ≠ .object (first :: rest) := by
  cases found with
  | object members =>
      cases members with
      | nil => exact .inr fun _ _ => nofun
      | cons first rest => exact .inl ⟨first, rest, rfl⟩
  | _ => exact .inr fun _ _ => nofun

theorem not_isFilled_iff {path : Path} : ¬IsFilled value path ↔
    ∃ found, value.at? path = some found ∧ ∀ first rest, found ≠ .object (first :: rest) := by
  constructor
  · intro unfilled
    cases there : value.at? path with
    | none => exact absurd (fun found isFound => nomatch there.symm.trans isFound) unfilled
    | some found =>
        rcases filled_or_other found with ⟨first, rest, rfl⟩ | other
        · refine absurd (fun again isFound => ?_) unfilled
          cases there.symm.trans isFound
          exact ⟨first, rest, rfl⟩
        · exact ⟨found, rfl, other⟩
  · rintro ⟨found, there, other⟩ filled
    obtain ⟨first, rest, isObject⟩ := filled found there
    exact other first rest isObject

/-! ## An unused leaf is in a section without members -/

/-- A leaf of an object that has members is in one of them. -/
theorem exists_member_of_leaf {first : String × Json} {others : List (String × Json)} {path : Path}
    {leaf : Json} (there : (Json.object (first :: others)).at? path = some leaf)
    (isLeaf : leaf.isLeaf = true) :
    ∃ name rest inner, path = name :: rest ∧
      (Json.object (first :: others)).at? [name] = some inner ∧ (name, inner) ∈ first :: others ∧
        inner.at? rest = some leaf := by
  cases path with
  | nil =>
      cases there
      cases isLeaf
  | cons name rest =>
      obtain ⟨inner, inside, found⟩ := Option.bind_eq_some_iff.1 there
      refine ⟨name, rest, inner, rfl, ?_, Entries.mem_of_lookup inside, found⟩
      exact Option.bind_eq_some_iff.2 ⟨inner, inside, rfl⟩

/-- A field that is known as a place is read with all that is below it. -/
theorem isRead_of_consumed {above : Path} {name : String}
    (listed : above ++ [name] ∈ consumedPaths) (rest : Path) : IsRead (above ++ name :: rest) :=
  isRead_iff.2 ⟨above ++ [name], listed, rest, by rw [List.append_assoc, List.singleton_append]⟩

/-- **A record all of whose fields are known as places is read**, if it has members. -/
theorem isRead_of_record {shape : Shape} {first : String × Json} {others : List (String × Json)}
    {present : Entries Json} {above path : Path} {leaf : Json} (strict : shape.strict = true)
    (read : shape.present (.object (first :: others)) = .ok present)
    (listed : ∀ name ∈ shape.fields.map FieldRule.name, above ++ [name] ∈ consumedPaths)
    (there : (Json.object (first :: others)).at? path = some leaf) (isLeaf : leaf.isLeaf = true) :
    IsRead (above ++ path) := by
  obtain ⟨name, rest, inner, rfl, -, member, -⟩ := exists_member_of_leaf there isLeaf
  exact isRead_of_consumed (listed name (Shape.mem_names_of_present strict read member)) rest

/-- Whatever is read as the connection, a leaf of it is read, or in the names of variables while
these have no members. -/
theorem isRead_of_connection {first : String × Json} {others : List (String × Json)}
    {connection : ConnectionSection} {path : Path} {leaf : Json}
    (read : ConnectionSection.decode (.object (first :: others)) = .ok connection)
    (there : (Json.object (first :: others)).at? path = some leaf) (isLeaf : leaf.isLeaf = true) :
    IsRead ("keycloak" :: path) ∨ ∃ rest, path = "credentials_env" :: rest ∧
      ¬IsFilled (.object (first :: others)) ["credentials_env"] := by
  obtain ⟨name, rest, inner, rfl, here, member, below⟩ := exists_member_of_leaf there isLeaf
  obtain ⟨present, shaped, -⟩ := bind_eq_ok_iff.1 read
  have listed : ∀ name ∈ ConnectionSection.shape.fields.map FieldRule.name,
      name = "credentials_env" ∨ ["keycloak"] ++ [name] ∈ consumedPaths := by decide +kernel
  rcases listed name (Shape.mem_names_of_present rfl shaped member) with rfl | consumed
  · rcases filled_or_other inner with ⟨one, more, rfl⟩ | other
    · -- the names of variables are an object with members, each of which is read
      have checked : (FieldRule.defaulted "credentials_env"
          (Json.Decoder.optional CredentialVariables.decode)).check (.object (one :: more)) =
            .ok () := Shape.checked_of_present shaped _ member
      obtain ⟨named, isRead, -⟩ := exists_of_map_eq_ok checked
      rcases Json.Decoder.optional_eq_ok isRead with ⟨isNull, -⟩ | ⟨inner, decoded, -⟩
      · cases isNull
      · obtain ⟨names, named, -⟩ := bind_eq_ok_iff.1 decoded
        have each : ∀ name ∈ CredentialVariables.shape.fields.map FieldRule.name,
            ["keycloak", "credentials_env"] ++ [name] ∈ consumedPaths := by decide +kernel
        exact .inl (isRead_of_record rfl named each below isLeaf)
    · exact .inr ⟨rest, rfl, not_isFilled_iff.2 ⟨inner, here, other⟩⟩
  · exact .inl (isRead_of_consumed consumed rest)

/-- **An unused leaf of an accepted document is in a section without members.** -/
theorem exists_unfilled_of_unusedLeaf {members : List (String × Json)} {document : Document}
    {path : Path} (known : ∀ member ∈ members, (Document.shape.rule? member.1).isSome)
    (read : Document.ofValue (.object members) = .ok document)
    (unused : UnusedLeaf (.object members) path) :
    ∃ place ∈ settingSections, place <+: path ∧ ¬IsFilled (.object members) place := by
  obtain ⟨leaf, there, isLeaf⟩ := unused.isLeaf
  obtain ⟨present, shaped, -⟩ := bind_eq_ok_iff.1 (mapError_eq_ok_iff.1 read)
  obtain ⟨first, others, rfl⟩ : ∃ first others, members = first :: others := by
    cases members with
    | nil =>
        cases path with
        | nil => exact absurd rfl unused.isInner
        | cons name rest => cases there
    | cons first others => exact ⟨first, others, rfl⟩
  obtain ⟨name, rest, inner, rfl, here, member, below⟩ := exists_member_of_leaf there isLeaf
  have checked := Shape.checked_of_present shaped _ member
  have sections : ∀ name ∈ Document.shape.fields.map FieldRule.name,
      name = "keycloak" ∨ name = "bootstrap" ∨ [] ++ [name] ∈ consumedPaths := by decide +kernel
  rcases sections name (Shape.mem_names_of_rule? (known _ member)) with rfl | rfl | consumed
  · rcases filled_or_other inner with ⟨one, more, rfl⟩ | other
    · obtain ⟨found, isRead, -⟩ := exists_of_map_eq_ok (show (FieldRule.nullable "keycloak"
        ConnectionSection.decode).check (.object (one :: more)) = .ok () from checked)
      rcases Json.Decoder.optional_eq_ok isRead with ⟨isNull, -⟩ | ⟨connection, decoded, -⟩
      · cases isNull
      · rcases isRead_of_connection decoded below isLeaf with isRead | ⟨last, rfl, unfilled⟩
        · exact absurd isRead unused.isUnread
        · refine ⟨["keycloak", "credentials_env"], by decide, ⟨last, rfl⟩, ?_⟩
          obtain ⟨found, isFound, other⟩ := not_isFilled_iff.1 unfilled
          refine not_isFilled_iff.2 ⟨found, ?_, other⟩
          have inside :=
            Json.at?_append (.object (first :: others)) ["keycloak"] ["credentials_env"]
          exact inside.trans (by rw [here]; exact isFound)
    · exact ⟨["keycloak"], by decide, ⟨rest, rfl⟩, not_isFilled_iff.2 ⟨inner, here, other⟩⟩
  · rcases filled_or_other inner with ⟨one, more, rfl⟩ | other
    · obtain ⟨settings, decoded, -⟩ := exists_of_map_eq_ok (show (FieldRule.defaulted "bootstrap"
        RunSettings.decode).check (.object (one :: more)) = .ok () from checked)
      obtain ⟨fields, shaped, -⟩ := bind_eq_ok_iff.1 decoded
      have listed : ∀ name ∈ RunSettings.shape.fields.map FieldRule.name,
          ["bootstrap"] ++ [name] ∈ consumedPaths := by decide +kernel
      exact absurd (isRead_of_record rfl shaped listed below isLeaf) unused.isUnread
    · exact ⟨["bootstrap"], by decide, ⟨rest, rfl⟩, not_isFilled_iff.2 ⟨inner, here, other⟩⟩
  · exact absurd (isRead_of_consumed consumed rest) unused.isUnread

/-! ## A section without members has an unused leaf -/

/-- What is not an object with members is a leaf, or its leaves are in its items. -/
theorem firstStep_of_leaf {found leaf : Json} {path : Path}
    (other : ∀ first rest, found ≠ .object (first :: rest)) (there : found.at? path = some leaf) :
    path = [] ∨ ∃ token rest, path = token :: rest ∧ (Json.position? token).isSome := by
  cases path with
  | nil => exact .inl rfl
  | cons token rest =>
      refine .inr ⟨token, rest, rfl, ?_⟩
      obtain ⟨inner, inside, -⟩ := Option.bind_eq_some_iff.1 there
      cases found with
      | array items =>
          obtain ⟨index, isPosition, -⟩ := Option.bind_eq_some_iff.1 inside
          exact Option.isSome_of_eq_some isPosition
      | object members =>
          cases members with
          | nil => cases inside
          | cons first others => exact absurd rfl (other first others)
      | _ => cases inside

/-- Of a section of settings only members are read. -/
theorem not_isRead_of_section {place path : Path} (isSection : place ∈ settingSections)
    (inItems : path = [] ∨ ∃ token rest, path = token :: rest ∧ (Json.position? token).isSome) :
    ¬IsRead (place ++ path) := by
  have apart : ∀ place ∈ settingSections, ∀ upper ∈ consumedPaths,
      (upper.isPrefixOf place = false) ∧ (place.isPrefixOf upper = true →
        (upper.drop place.length).head?.any (fun token => (Json.position? token).isSome) =
          false) := by decide +kernel
  intro isRead
  obtain ⟨upper, listed, above⟩ := isRead_iff.1 isRead
  obtain ⟨notAbove, noItem⟩ := apart place isSection upper listed
  rcases List.prefix_or_prefix_of_prefix above (List.prefix_append place path) with before | after
  · rw [List.isPrefixOf_iff_prefix.2 before] at notAbove
    cases notAbove
  · obtain ⟨more, rfl⟩ := after
    have isItem := noItem (List.isPrefixOf_iff_prefix.2 (List.prefix_append place more))
    rw [List.drop_left] at isItem
    cases more with
    | nil =>
        rw [List.append_nil, List.isPrefixOf_iff_prefix.2 List.prefix_rfl] at notAbove
        cases notAbove
    | cons token rest =>
        rcases inItems with rfl | ⟨first, others, rfl, isPosition⟩
        · rw [List.append_nil] at above
          rw [List.isPrefixOf_iff_prefix.2 above] at notAbove
          cases notAbove
        · have same := (List.cons_prefix_cons.1 ((List.prefix_append_right_inj place).1 above)).1
          rw [List.head?_cons, Option.any_some, same, isPosition] at isItem
          cases isItem

/-- **A section that has no members and stands there has an unused leaf.** -/
theorem exists_unusedLeaf_of_not_isFilled (ordered : value.InOrder) {place : Path}
    (isSection : place ∈ settingSections) (unfilled : ¬IsFilled value place) :
    ∃ path, UnusedLeaf value (place ++ path) := by
  obtain ⟨found, there, other⟩ := not_isFilled_iff.1 unfilled
  obtain ⟨⟨path, leaf⟩, isBelow⟩ := List.exists_mem_of_ne_nil _ (Json.leaves_ne_nil found)
  obtain ⟨isThere, isLeaf⟩ := (Json.mem_leaves_iff (ordered.at? there)).1 isBelow
  refine ⟨path, fun isRoot => ?_, ⟨leaf, ?_, isLeaf⟩, ?_⟩
  · rw [(List.append_eq_nil_iff.1 isRoot).1] at isSection
    exact absurd isSection (by decide)
  · rw [Json.at?_append, there]
    exact isThere
  · exact not_isRead_of_section isSection (firstStep_of_leaf other isThere)

/-! ## Where strictness and reading agree -/

/-- **What is read counts as used** exactly where every section of settings has members. A document
of known sections that is accepted passes where unused keys are not allowed if and only if the
connection, its names of variables and the settings of runs are each missing or an object with
members; a key of it is unused only at or below one that is neither. -/
theorem strict_accepts_iff {members : List (String × Json)} {document : Document}
    (ordered : (Json.object members).InOrder)
    (known : ∀ member ∈ members, (Document.shape.rule? member.1).isSome)
    (read : Document.ofValue (.object members) = .ok document) :
    (unusedKeys (.object members) .fail = .ok [] ↔
      ∀ place ∈ settingSections, IsFilled (.object members) place) ∧
    ∀ path, UnusedLeaf (.object members) path →
      ∃ place ∈ settingSections, place <+: path ∧ ¬IsFilled (.object members) place := by
  have confined : ∀ path, UnusedLeaf (.object members) path →
      ∃ place ∈ settingSections, place <+: path ∧ ¬IsFilled (.object members) place :=
    fun path unused => exists_unfilled_of_unusedLeaf known read unused
  rw [unusedKeys_fail_eq_ok_iff ordered]
  refine ⟨⟨fun none place isSection => ?_, fun filled path unused => ?_⟩, confined⟩
  · refine Classical.byContradiction fun unfilled => ?_
    obtain ⟨path, unused⟩ := exists_unusedLeaf_of_not_isFilled ordered isSection unfilled
    exact none (place ++ path) unused
  · obtain ⟨place, isSection, -, unfilled⟩ := confined path unused
    exact unfilled (filled place isSection)

/-- A document whose sections of settings have members, one of them null. -/
def filledDocument : List (String × Json) :=
  [("keycloak", .object [("base_url", .string "sso"),
      ("credentials_env", .object [("username", .null)])]),
    ("realm", .object [("name", .string "school")])]

/-- A setting that is null is read as any other. -/
theorem strict_accepts_iff_filled :
    (Json.object filledDocument).InOrder ∧
      (∀ member ∈ filledDocument, (Document.shape.rule? member.1).isSome) ∧
      (∃ document, Document.ofValue (.object filledDocument) = .ok document) ∧
      unusedKeys (.object filledDocument) .fail = .ok [] := by
  have inOrder : (Json.object filledDocument).InOrder :=
    ⟨List.pairwise_pair.2 (by decide), ⟨List.pairwise_pair.2 (by decide), trivial,
      ⟨List.pairwise_singleton _ _, trivial, trivial⟩, trivial⟩,
      ⟨List.pairwise_singleton _ _, trivial, trivial⟩, trivial⟩
  have known : ∀ member ∈ filledDocument, (Document.shape.rule? member.1).isSome := by
    have all : ∀ name ∈ filledDocument.map Prod.fst, (Document.shape.rule? name).isSome := by
      decide +kernel
    exact fun member inside => all member.1 (List.mem_map_of_mem inside)
  have isRead : (Document.ofValue (.object filledDocument)).toOption.isSome := by decide +kernel
  obtain ⟨document, found⟩ := Option.isSome_iff_exists.1 isRead
  have read := toOption_eq_some_iff.1 found
  refine ⟨inOrder, known, ⟨document, read⟩, (strict_accepts_iff inOrder known read).1.2 ?_⟩
  intro place isSection stands there
  simp only [settingSections, List.mem_cons, List.not_mem_nil, or_false] at isSection
  rcases isSection with rfl | rfl | rfl
  · cases there
    exact ⟨_, _, rfl⟩
  · cases there
    exact ⟨_, _, rfl⟩
  · cases there

/-- A document with a section that says nothing. -/
def bareDocument : List (String × Json) :=
  [("bootstrap", .object []), ("realm", .object [("name", .string "school")])]

/-- A section that says nothing is read, and is refused where unused keys are not allowed. -/
theorem bareDocument_refused :
    (∀ member ∈ bareDocument, (Document.shape.rule? member.1).isSome) ∧
      (∃ document, Document.ofValue (.object bareDocument) = .ok document) ∧
      unusedKeys (.object bareDocument) .warn = .ok ["/bootstrap"] ∧
      ∃ problem, unusedKeys (.object bareDocument) .fail = .error problem := by
  have all : ∀ name ∈ bareDocument.map Prod.fst, (Document.shape.rule? name).isSome := by
    decide +kernel
  have isRead : (Document.ofValue (.object bareDocument)).toOption.isSome := by decide +kernel
  obtain ⟨document, found⟩ := Option.isSome_iff_exists.1 isRead
  have unused : (unusedPointers (.object bareDocument)).toList = ["/bootstrap"] := by decide +kernel
  refine ⟨fun member inside => all member.1 (List.mem_map_of_mem inside),
    ⟨document, toOption_eq_some_iff.1 found⟩, congrArg Except.ok unused, _,
    unusedKeys_fail_of_ne_nil ?_⟩
  rw [unused]
  exact List.cons_ne_nil _ _

end RealmConvergence.Configuration
